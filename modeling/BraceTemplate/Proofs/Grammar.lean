import BraceTemplate.Body.Directive
import Mathlib.Data.List.Forall2

/-!
# BraceTemplate.Proofs.Grammar

The grammar of directives, said without the readers. `Written d` says which texts may stand in the
fields of a directive, so that `d.source` is a complete text of its form. `RunsOn d t` says that a
directive does not end before the text `t`, because a longer directive of the same form begins with
it: more digits behind a position, a format behind a date keyword, a zone behind a format.
-/

namespace BraceTemplate

namespace Directive

/-- A keyword in any case. -/
def Spells (word w : Text) : Prop :=
  List.Forall₂ (fun letter c => Text.isLetterAnyCase letter c = true) word w

def SpellsAny (words : List String) (w : Text) : Prop := ∃ x ∈ words, Spells x.toText w

/-- At least one character, all of a class. -/
def IsRun (p : CodePoint → Bool) (w : Text) : Prop := w ≠ [] ∧ ∀ c ∈ w, p c = true

/-- Braces around decimal digits or around nothing. -/
def IsIndirect (w : Text) : Prop :=
  ∃ digits : Text, (∀ c ∈ digits, Text.isDecimal c = true) ∧
    w = .char '\x7b' :: (digits ++ [.char '\x7d'])

def IsOperand (p : CodePoint → Bool) (w : Text) : Prop := IsRun p w ∨ IsIndirect w

/-- A second bound, which may be negative. -/
def IsBound (w : Text) : Prop :=
  IsOperand Text.isDecimal w ∨ ∃ digits, IsRun Text.isDecimal digits ∧ w = .char '-' :: digits

/-- Text in which the closing mark stands only behind a backslash. -/
inductive IsEscaped (stop : CodePoint) : Text → Prop where
  | nil : IsEscaped stop []
  | plain {c : CodePoint} {w : Text} :
      c ≠ stop → c ≠ '\\' → IsEscaped stop w → IsEscaped stop (c :: w)
  | pair {d : CodePoint} {w : Text} : d ≠ '\n' → IsEscaped stop w → IsEscaped stop ('\\' :: d :: w)

/-- At most one flag. -/
def IsFlag (w : Text) : Prop := w = [] ∨ ∃ c, isPrintfFlag c = true ∧ w = [c]

/-- Nothing, or a point and digits. -/
def IsPrecision (w : Text) : Prop :=
  w = [] ∨ ∃ digits, IsRun Text.isDecimal digits ∧ w = .char '.' :: digits

def IsConversionLetter (c : CodePoint) : Prop :=
  ∃ letter ∈ printfLetters, Text.isLetterAnyCase letter c = true

/-- A percent sign, a flag, a width, a precision and a letter. -/
inductive IsSpecifier : Text → Prop where
  | intro {flag width precision : Text} {letter : CodePoint} :
      IsFlag flag → (∀ c ∈ width, Text.isDecimal c = true) → IsPrecision precision →
      IsConversionLetter letter →
      IsSpecifier ('%' :: (flag ++ (width ++ (precision ++ [letter]))))

/-- The keyword of a date. -/
def dateWord (isClock : Bool) : String := if isClock then "now" else "date"

/-- The forms of a directive. -/
inductive Written : Directive → Prop where
  | position {digits : Text} : IsRun Text.isDecimal digits → Written (position digits)
  | trim {w : Text} : SpellsAny ["trim"] w → Written (trim w)
  | lower {w : Text} : SpellsAny ["tolower", "lower"] w → Written (lower w)
  | upper {w : Text} : SpellsAny ["toupper", "upper"] w → Written (upper w)
  | codec {w : Text} :
      SpellsAny ["urlencode", "urldecode", "b64encode", "b64decode", "base64encode",
        "base64decode"] w → Written (codec w)
  | start {start : Text} : IsOperand Text.isDecimal start → Written (substring start none)
  | bounds {start bound : Text} {mark : CodePoint} :
      IsOperand Text.isDecimal start → mark = ',' ∨ mark = ':' → IsBound bound →
      Written (substring start (some (mark, bound)))
  | extract {pattern group : Text} :
      IsEscaped '/' pattern → .char ']' ∉ group → Written (extract pattern group)
  | printf {specifier : Text} : IsSpecifier specifier → Written (printf specifier)
  | date {isClock : Bool} {w : Text} : Spells (dateWord isClock).toText w →
      Written (date isClock w none)
  | format {isClock : Bool} {w format : Text} : Spells (dateWord isClock).toText w →
      IsEscaped ')' format → Written (date isClock w (some (format, none)))
  | zone {isClock : Bool} {w format zone : Text} : Spells (dateWord isClock).toText w →
      IsEscaped ')' format → IsOperand isZoneChar zone →
      Written (date isClock w (some (format, some zone)))

/-- A text that begins with a format between parentheses. -/
def BeginsFormat (t : Text) : Prop :=
  ∃ format rest, IsEscaped ')' format ∧ t = .char '(' :: (format ++ .char ')' :: rest)

/-- A text that begins with a zone between brackets. -/
def BeginsZone (t : Text) : Prop :=
  ∃ zone rest, IsOperand isZoneChar zone ∧ t = .char '[' :: (zone ++ .char ']' :: rest)

def RunsOn : Directive → Text → Prop
  | position _, t => ∃ c rest, Text.isDecimal c = true ∧ t = c :: rest
  | date _ _ none, t => BeginsFormat t
  | date _ _ (some (_, none)), t => BeginsZone t
  | _, _ => False

end Directive

end BraceTemplate
