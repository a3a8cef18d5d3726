import BraceTemplate.Fault
import BraceTemplate.Text.Classes

/-!
# BraceTemplate.Number.Integer

Integers as text: decimal with the limit on digits, other bases, thousands separators, and the
reading of decimal digits of any script.
-/

namespace BraceTemplate.Number

/-- The most decimal digits that are read or written. -/
def maxDigits : Nat := 4300

def natText (n : Nat) : Text := .digits 10 n

def intText (i : Int) : Text := if i < 0 then '-' :: natText i.natAbs else natText i.natAbs

/-- Decimal text of an integer within the limit on digits. -/
def decimalText (i : Int) : Except Fault Text :=
  let digits := natText i.natAbs
  if digits.length > maxDigits then .error .tooManyDigits
  else .ok (if i < 0 then '-' :: digits else digits)

/-- At least two digits. -/
def twoDigits (n : Nat) : Text := if n < 10 then '0' :: natText n else natText n

/-- Zeros on the left up to the width. -/
def zeroPad (width : Nat) (t : Text) : Text := List.replicate (width - t.length) (.char '0') ++ t

/-- A comma before every group of three digits counted from the right. -/
def groupThousands (digits : Text) : Text :=
  let rec go : Nat → Text → Text
    | _, [] => []
    | n, c :: t => if n = 3 then ',' :: c :: go 1 t else c :: go (n + 1) t
  (go 0 digits.reverse).reverse

/-- The number that decimal digits of any script denote; other characters count as nothing. -/
def digitsValue (t : Text) : Nat :=
  t.foldl (fun n c => match digitValue c with | some d => 10 * n + d | none => n) 0
where
  digitValue (c : CodePoint) : Option Nat := Text.digitValue? c

/-- The number that a text of decimal digits denotes, within the limit on digits. -/
def readDigits (t : Text) : Except Fault Nat :=
  if t.length > maxDigits then .error .tooManyDigits else .ok (digitsValue t)

/-- Whether a text is a sign, if any, decimal digits of any script and a line feed, if any. -/
def isIntegerText (t : Text) : Bool :=
  let body := match t with
    | '-' :: r => r
    | '+' :: r => r
    | r => r
  let digits := body.takeWhile Text.isDecimal
  let rest := body.dropWhile Text.isDecimal
  !digits.isEmpty && (rest.isEmpty || rest = [.char '\n'])

/-- The integer that such a text denotes, within the limit on digits. -/
def readInteger (t : Text) : Except Fault Int :=
  let negative := match t with
    | '-' :: _ => true
    | _ => false
  match readDigits (t.filter Text.isDecimal) with
  | .error f => .error f
  | .ok n => .ok (if negative then -(n : Int) else n)

end BraceTemplate.Number
