import BraceTemplate.Number.Binary64
import BraceTemplate.Number.Integer

/-!
# BraceTemplate.Number.Reading

Numbers written as text: blanks around, a sign, decimal digits of any script with single low lines
between them; a floating point number also has a fraction, an exponent or the name of a special
value.
-/

namespace BraceTemplate.Number

/-- A blank that may stand around a number: every blank but the four information separators. -/
def isMargin (c : CodePoint) : Bool := Text.isBlank c && !(0x1c ≤ c.toNat && c.toNat ≤ 0x1f)

/-- Digits of every script as ASCII digits. -/
def asciiDigits (t : Text) : Text :=
  t.map fun c => match Text.digitValue? c with | some d => Nat.digitChar d | none => c

/-- Without the low lines, if each stands between two digits. -/
def dropLowLines? (t : Text) : Option Text :=
  let rec go (before : Bool) : Text → Option Text
    | [] => some []
    | c :: r =>
      if c = '_' then
        match r with
        | d :: _ => if before && Text.isAsciiDigit d then go false r else none
        | [] => none
      else (go (Text.isAsciiDigit c) r).map (c :: ·)
  go false t

/-- A leading sign and the rest. -/
def splitSign : Text → Bool × Text
  | '-' :: t => (true, t)
  | '+' :: t => (false, t)
  | t => (false, t)

def readIntegerText? (t : Text) : Option Int :=
  match dropLowLines? (asciiDigits (Text.strip isMargin t)) with
  | none => none
  | some s =>
    let (negative, digits) := splitSign s
    if digits.isEmpty || !digits.all Text.isAsciiDigit || digits.length > maxDigits then none
    else
      let n := digitsValue digits
      some (if negative then -(n : Int) else n)

/-- An exponent part, or nothing at the end of the text. -/
def readExponent? : Text → Option Int
  | [] => some 0
  | e :: t =>
    if e = 'e' ∨ e = 'E' then
      let (negative, digits) := splitSign t
      if digits.isEmpty || !digits.all Text.isAsciiDigit then none
      else some (if negative then -(digitsValue digits : Int) else digitsValue digits)
    else none

/-- Digits with a point, if any, and an exponent, if any. -/
def readUnsigned? (negative : Bool) (t : Text) : Option Binary64 :=
  let whole := t.takeWhile Text.isAsciiDigit
  let rest := t.dropWhile Text.isAsciiDigit
  let (part, tail) := match rest with
    | '.' :: r => (r.takeWhile Text.isAsciiDigit, r.dropWhile Text.isAsciiDigit)
    | r => ([], r)
  if whole.isEmpty && part.isEmpty then none
  else (readExponent? tail).map fun e =>
    Binary64.ofDecimal negative (digitsValue (whole ++ part)) (e - part.length)

def readBinary64? (t : Text) : Option Binary64 :=
  match dropLowLines? (asciiDigits (Text.strip isMargin t)) with
  | none => none
  | some s =>
    let (negative, body) := splitSign s
    let word := body.map CodePoint.toLower
    if word = "inf".toText ∨ word = "infinity".toText then some (Binary64.infinity negative)
    else if word = "nan".toText then some Binary64.nan
    else readUnsigned? negative body

end BraceTemplate.Number
