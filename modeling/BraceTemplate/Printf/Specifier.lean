import BraceTemplate.Text.Classes

/-!
# BraceTemplate.Printf.Specifier

Conversion specifiers: a percent sign, one flag if any, a width if any, a precision behind a point
if any, and a conversion letter in either case where both exist.
-/

namespace BraceTemplate.Printf

inductive Flag where
  | left
  | alternate
  | plus
  | space
  | zero
  | comma
  | parenthesis
  deriving DecidableEq, Repr

inductive Conversion where
  | boolean
  | hash
  | string
  | character
  | decimal
  | octal
  | hexadecimal
  | scientific
  | fixed
  | general
  | hexFloat
  deriving DecidableEq, Repr

namespace Flag

def ofChar? (c : CodePoint) : Option Flag :=
  match c with
  | '-' => some left
  | '#' => some alternate
  | '+' => some plus
  | ' ' => some space
  | '0' => some zero
  | ',' => some comma
  | '(' => some parenthesis
  | _ => none

def toChar : Flag → CodePoint
  | left => '-'
  | alternate => '#'
  | plus => '+'
  | space => ' '
  | zero => '0'
  | comma => ','
  | parenthesis => '('

end Flag

/-- The conversion of a letter; decimal, octal and fixed exist in lower case only. -/
def Conversion.ofLetter? (c : CodePoint) : Option Conversion :=
  match c with
  | 'b' => some boolean
  | 'B' => some boolean
  | 'h' => some hash
  | 'H' => some hash
  | 's' => some string
  | 'S' => some string
  | 'c' => some character
  | 'C' => some character
  | 'd' => some decimal
  | 'o' => some octal
  | 'x' => some hexadecimal
  | 'X' => some hexadecimal
  | 'e' => some scientific
  | 'E' => some scientific
  | 'f' => some fixed
  | 'g' => some general
  | 'G' => some general
  | 'a' => some hexFloat
  | 'A' => some hexFloat
  | _ => none

structure Specifier where
  flag : Option Flag
  /-- Digits of the width as written, none for no width. -/
  width : Text
  precision : Option Text
  letter : CodePoint
  conversion : Conversion
  deriving DecidableEq, Repr

namespace Specifier

def isUpper (s : Specifier) : Bool := s.letter.isUpper

/-- A leading flag and the rest. -/
def splitFlag : Text → Option Flag × Text
  | [] => (none, [])
  | c :: t =>
    match Flag.ofChar? c with
    | some f => (some f, t)
    | none => (none, c :: t)

/-- A point with digits after it, and the rest. -/
def splitPrecision : Text → Option Text × Text
  | '.' :: t =>
    let digits := t.takeWhile Text.isDecimal
    if digits.isEmpty then (none, '.' :: t) else (some digits, t.dropWhile Text.isDecimal)
  | t => (none, t)

/-- The letter at the end of a specifier; a line feed may follow it. -/
def lastLetter? : Text → Option CodePoint
  | [c] => some c
  | [c, '\n'] => some c
  | _ => none

def parse? : Text → Option Specifier
  | '%' :: t =>
    let (flag, t) := splitFlag t
    let width := t.takeWhile Text.isDecimal
    let (precision, t) := splitPrecision (t.dropWhile Text.isDecimal)
    match lastLetter? t with
    | none => none
    | some c => (Conversion.ofLetter? c).map fun k => ⟨flag, width, precision, c, k⟩
  | _ => none

end Specifier

end BraceTemplate.Printf
