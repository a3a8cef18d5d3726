import BraceTemplate.Fault
import BraceTemplate.Number.Integer
import BraceTemplate.Text.Quoted

/-!
# BraceTemplate.Error

The errors of an expansion, as causes, and their messages. An expansion error fails one parameter
set; a fault ends the whole call.
-/

namespace BraceTemplate

/-- Why a printf specifier does not apply to a value. -/
inductive ConversionError where
  | unsupportedSpecifier (spec : Text)
  | flagNotApplicable (flag : Text) (letter : CodePoint) (spec : Text)
  | precisionNotAllowed (spec : Text)
  | integerRequired (letter : CodePoint) (kind : String)
  | floatRequired (letter : CodePoint) (kind : String)
  | characterRequired (kind : String)
  | invalidCodePoint (spec : Text) (value : Int)
  deriving DecidableEq, Repr

inductive ExpansionError where
  | notIntegerLiteral (got : Option Text)
  | notIntegerReference (got : Text)
  | conversion (cause : ConversionError)
  | unknownZone (name : Text)
  | incompleteEscape (offset : Nat) (text : Text)
  /-- A pattern that does not compile, with the reason and where it was found. -/
  | invalidExtraction (pattern reason : Text) (position : Nat)
  | unknownDateLetter (letter : CodePoint) (pattern : Text)
  | invalidDatePattern (pattern : Text)
  deriving DecidableEq, Repr

/-- How an evaluation ends without a result. -/
inductive Failure where
  | expansion (error : ExpansionError)
  | fault (fault : Fault)
  deriving DecidableEq, Repr

namespace ConversionError

def message : ConversionError → Text
  | unsupportedSpecifier spec => "Unsupported format specifier: ".toText ++ spec
  | flagNotApplicable flag letter spec =>
    "Flag '".toText ++ flag ++ "' does not apply to %".toText ++ letter :: " in ".toText ++ spec
  | precisionNotAllowed spec => "Precision is not allowed in ".toText ++ spec
  | integerRequired letter kind =>
    .char '%' :: letter :: " requires an integer, got ".toText ++ kind.toText
  | floatRequired letter kind =>
    .char '%' :: letter :: " requires a floating point value, got ".toText ++ kind.toText
  | characterRequired kind => "%c requires a character or code point, got ".toText ++ kind.toText
  | invalidCodePoint spec value =>
    "Invalid code point for ".toText ++ spec ++ ": ".toText ++ Number.intText value

end ConversionError

namespace ExpansionError

/-- The reason a pattern does not compile, with its place; the line and column are added for a
pattern of several lines. -/
def patternReason (pattern reason : Text) (position : Nat) : Text :=
  let before := pattern.take position
  reason ++ " at position ".toText ++ Number.natText position ++
    (if pattern.contains '\n' then
      " (line ".toText ++ Number.natText (before.count (.char '\n') + 1) ++ ", column ".toText ++
        Number.natText ((before.reverse.takeWhile (· ≠ .char '\n')).length + 1) ++ [.char ')']
    else [])

/-- The message without the reason that a pattern does not compile. -/
def shortMessage : ExpansionError → Text
  | notIntegerLiteral got =>
    "Expected an integer literal, got ".toText ++
      (match got with
        | none => "None".toText
        | some t => Text.quoted t)
  | notIntegerReference got => "Expected an integer reference, got ".toText ++ Text.quoted got
  | conversion cause => cause.message
  | unknownZone name => "Unknown time zone: ".toText ++ name
  | incompleteEscape offset text =>
    "Incomplete percent escape at offset ".toText ++ Number.natText offset ++ ": ".toText ++
      Text.quoted text
  | invalidExtraction pattern _ _ => "Invalid extraction pattern ".toText ++ Text.quoted pattern
  | unknownDateLetter letter pattern =>
    "Unknown date field letter '".toText ++ letter :: "' in pattern: ".toText ++ pattern
  | invalidDatePattern pattern => "Invalid date pattern: ".toText ++ pattern

def message : ExpansionError → Text
  | invalidExtraction pattern reason position =>
    shortMessage (invalidExtraction pattern reason position) ++ ": ".toText ++
      patternReason pattern reason position
  | e => e.shortMessage

end ExpansionError

end BraceTemplate
