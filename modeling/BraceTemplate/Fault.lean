/-!
# BraceTemplate.Fault

What can go wrong apart from an expansion error: a value outside the range that an operation is
defined on. A fault ends the whole call.
-/

namespace BraceTemplate

inductive Fault where
  /-- Reading or writing a decimal integer of more than 4300 digits. -/
  | tooManyDigits
  /-- An infinite number where an integer is needed. -/
  | infiniteInteger
  /-- A number that is not a number where an integer is needed. -/
  | undefinedInteger
  /-- An instant outside the years 1 to 9999. -/
  | instantOutOfRange
  /-- A local time of the calendar's first day, for which no zone offset is defined. -/
  | firstDayOfCalendar
  /-- A codec name that only a case-insensitive reading accepts. -/
  | unknownCodec
  /-- Flags of a pattern that exclude one another. -/
  | incompatibleFlags
  /-- A field width beyond what can be addressed. -/
  | widthTooLarge
  /-- A width or precision that numeric formatting cannot read. -/
  | malformedSpecifier
  /-- Thousands separators in a conversion that has none. -/
  | groupingNotAllowed
  /-- More fraction digits than a binary fraction can be scaled by. -/
  | fractionTooLong
  /-- A well-formed locale identifier without data. -/
  | unknownLocale
  /-- A parameter position outside the list. -/
  | positionOutOfRange
  /-- An absent text where a text is needed. -/
  | absentText
  /-- An operator without an operand that it reads. -/
  | absentOperand
  /-- A mapping key that is not a text. -/
  | keyNotText
  /-- A surrogate in a text that is to be encoded. -/
  | loneSurrogate
  /-- A batch size or worker count that allows no batch. -/
  | emptyBatch
  /-- A validation level that does not exist. -/
  | unknownLevel
  /-- Text that is not well-formed where a date or a number of a document is read. -/
  | malformedScalar
  /-- Text that is not one of the words for a truth value where one is required. -/
  | unknownTruthWord
  /-- The empty text where a number of a document is read. -/
  | emptyNumber
  /-- Text without the form of a timestamp where one is required. -/
  | malformedTimestamp
  /-- A value that is no text where a timestamp is required. -/
  | timestampNotText
  /-- A character code beyond the machine's integers. -/
  | codeTooLarge
  /-- A member's name that is neither text, number, truth value nor no value. -/
  | unwritableKey
  /-- A value that contains itself. -/
  | endlessValue
  deriving DecidableEq, Repr

end BraceTemplate
