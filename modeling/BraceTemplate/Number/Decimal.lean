import BraceTemplate.Number.Binary64
import BraceTemplate.Number.Integer

/-!
# BraceTemplate.Number.Decimal

Decimal text of floating point numbers: a fixed count of places, an exponent, the shorter of the
two, and the fewest digits that read back. Rounding goes to the nearest decimal, a tie to the even
digit.
-/

namespace BraceTemplate.Number

/-- The least `k` with `num / den < 10 ^ k`, for a ratio above zero: where the decimal point stands
relative to the first digit. -/
def pointPosition (num den : Nat) : Int :=
  let below : Int → Bool := fun k =>
    decide (num * Nat.pow 10 (-k).toNat < den * Nat.pow 10 k.toNat)
  let log : Int := (Nat.log2 num : Int) - (Nat.log2 den : Int)
  let start : Int := Int.fdiv (log * 30103) 100000 - 2
  let rec go (fuel : Nat) (k : Int) : Int :=
    match fuel with
    | 0 => k
    | fuel + 1 => if below k then k else go fuel (k + 1)
  go 8 start

/-- A ratio times a power of ten, rounded to an integer. -/
def scaledRound (num den : Nat) (power : Int) : Nat :=
  roundRatio (num * Nat.pow 10 power.toNat) (den * Nat.pow 10 (-power).toNat)

/-- `count` digits of a ratio above zero and the position of the point after rounding. -/
def roundedDigits (num den count : Nat) : Text × Int :=
  let k := pointPosition num den
  let n := scaledRound num den (count - k)
  if n = Nat.pow 10 count then (natText (Nat.pow 10 (count - 1)), k + 1) else (natText n, k)

/-- A point before the last `places` digits; without places no point unless it is kept. -/
def insertPoint (n places : Nat) (keepPoint : Bool) : Text :=
  let digits := zeroPad (places + 1) (natText n)
  let whole := digits.take (digits.length - places)
  let part := digits.drop (digits.length - places)
  whole ++ (if places = 0 then (if keepPoint then [.char '.'] else []) else .char '.' :: part)

def fixedText (num den places : Nat) (keepPoint : Bool) : Text :=
  insertPoint (scaledRound num den places) places keepPoint

/-- An exponent with its sign and at least two digits. -/
def exponentText (e : Int) : Text :=
  'e' :: (if e < 0 then '-' else '+') :: twoDigits e.natAbs

/-- One digit, the point, the other digits and the exponent. -/
def scientificDigits (digits : Text) (e : Int) (keepPoint : Bool) : Text :=
  digits.take 1 ++ (if digits.length > 1 then .char '.' :: digits.drop 1
    else if keepPoint then ['.'] else []) ++ exponentText e

def scientificText (num den places : Nat) (keepPoint : Bool) : Text :=
  if num = 0 then scientificDigits (List.replicate (places + 1) '0') 0 keepPoint
  else
    let (digits, k) := roundedDigits num den (places + 1)
    scientificDigits digits (k - 1) keepPoint

/-- `precision` significant digits: an exponent below -4 or from `precision` on is written, other
numbers have a fixed point. All digits and the point are kept. -/
def generalText (num den precision : Nat) : Text :=
  let p := max 1 precision
  if num = 0 then insertPoint 0 (p - 1) true
  else
    let (digits, k) := roundedDigits num den p
    if k - 1 < -4 ∨ (p : Int) ≤ k - 1 then scientificDigits digits (k - 1) true
    else if 0 < k then
      digits.take k.toNat ++ .char '.' :: digits.drop k.toNat
    else .char '0' :: .char '.' :: (List.replicate (-k).toNat (.char '0') ++ digits)

namespace Binary64

/-- Digits without trailing zeros and the position of the point: of the fewest digits that read
back as the number, those nearest to it. -/
def shortestDigits (x : Binary64) : Text × Int :=
  let num := x.numerator
  let den := x.denominator
  let k := pointPosition num den
  let readsBack : Nat → Nat → Bool := fun n count =>
    let power : Int := count - k
    ofRatio x.negative (n * Nat.pow 10 (-power).toNat) (Nat.pow 10 power.toNat) = x
  let nearer : Nat → Nat → Bool := fun n count =>
    let power : Int := count - k
    let scaled := num * Nat.pow 10 power.toNat
    let unit := den * Nat.pow 10 (-power).toNat
    let r := scaled - n * unit
    decide (2 * r < unit) || (decide (2 * r = unit) && n % 2 == 0)
  let rec go (fuel count : Nat) : Nat × Nat :=
    let power : Int := count - k
    let low := num * Nat.pow 10 power.toNat / (den * Nat.pow 10 (-power).toNat)
    match fuel with
    | 0 => (low, count)
    | fuel + 1 =>
      match readsBack low count, readsBack (low + 1) count with
      | true, true => (if nearer low count then low else low + 1, count)
      | true, false => (low, count)
      | false, true => (low + 1, count)
      | false, false => go fuel (count + 1)
  let (n, count) := go 17 1
  let digits := natText n
  let trimmed := (digits.reverse.dropWhile (· = .char '0')).reverse
  (trimmed, k + ((digits.length : Int) - count))

/-- The fewest digits that read back, positional for a point position above -4 and up to 16, with
an exponent otherwise; a whole number keeps one zero after the point. -/
def text (x : Binary64) : Text :=
  if x.isNaN then "nan".toText
  else
    let sign : Text := if x.negative then ['-'] else []
    if x.isInfinite then sign ++ "inf".toText
    else if x.isZero then sign ++ "0.0".toText
    else
      let (digits, k) := x.shortestDigits
      sign ++
        (if -4 < k ∧ k ≤ 16 then
          if k ≤ 0 then .char '0' :: .char '.' :: (List.replicate (-k).toNat (.char '0') ++ digits)
          else if digits.length ≤ k.toNat then
            digits ++ List.replicate (k.toNat - digits.length) (.char '0') ++ ".0".toText
          else digits.take k.toNat ++ .char '.' :: digits.drop k.toNat
        else scientificDigits digits (k - 1) false)

end Binary64

end BraceTemplate.Number
