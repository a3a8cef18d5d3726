import BraceTemplate.Reference

/-!
# BraceTemplate.Operator.Basic

The operators that a replacement applies to its working value, with their operands.
-/

namespace BraceTemplate

inductive Operator where
  | trim
  | lower
  | upper
  | urlEncode
  | urlDecode
  | base64Encode
  | base64Decode
  /-- The text from one bound up to another. -/
  | slice (start stop : Reference)
  /-- The text from a bound on, with a length. -/
  | sliceLength (start length : Reference)
  /-- What a group of a pattern matches. -/
  | extract (pattern group : Reference)
  | printf (specifier : Reference)
  /-- The date and time in a pattern, on the clock of a zone. -/
  | date (pattern zone : Reference)
  deriving DecidableEq, Repr

namespace Operator

/-- The operands in the order in which they are resolved. -/
def operands : Operator → List Reference
  | slice start stop => [start, stop]
  | sliceLength start length => [start, length]
  | extract pattern group => [pattern, group]
  | printf specifier => [specifier]
  | date pattern zone => [pattern, zone]
  | _ => []

end Operator

end BraceTemplate
