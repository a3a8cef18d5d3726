import BraceTemplate.Text.Basic

/-!
# BraceTemplate.Number.Binary64

Binary floating point numbers of 64 bits as sign, exponent and fraction, with the exact value as
a ratio of integers. `ofRatio` rounds a ratio to the nearest number, a tie to the even one; all
arithmetic is exact followed by one such rounding.
-/

namespace BraceTemplate.Number

structure Binary64 where
  negative : Bool
  exponent : Fin 2048
  /-- The 52 bits below the leading one. -/
  fraction : Fin 0x10000000000000
  deriving DecidableEq, Repr

/-- The integer nearest to a ratio, a tie going to the even one. -/
def roundRatio (num den : Nat) : Nat :=
  let q := num / den
  let r := num % den
  if 2 * r < den then q else if den < 2 * r then q + 1 else if q % 2 = 0 then q else q + 1

namespace Binary64

def zero (negative : Bool) : Binary64 := ⟨negative, 0, 0⟩

def infinity (negative : Bool) : Binary64 := ⟨negative, 2047, 0⟩

def nan : Binary64 := ⟨false, 2047, ⟨0x8000000000000, by decide⟩⟩

def isNaN (x : Binary64) : Bool := x.exponent.val = 2047 && x.fraction.val ≠ 0

def isInfinite (x : Binary64) : Bool := x.exponent.val = 2047 && x.fraction.val = 0

def isFinite (x : Binary64) : Bool := x.exponent.val ≠ 2047

def isZero (x : Binary64) : Bool := x.exponent.val = 0 && x.fraction.val = 0

/-- A finite number is its significand times two to the power of its scale. -/
def significand (x : Binary64) : Nat :=
  if x.exponent.val = 0 then x.fraction.val else 0x10000000000000 + x.fraction.val

def scale (x : Binary64) : Int :=
  if x.exponent.val = 0 then -1074 else (x.exponent.val : Int) - 1075

/-- The magnitude of a finite number as a ratio. -/
def numerator (x : Binary64) : Nat := x.significand * Nat.pow 2 x.scale.toNat

def denominator (x : Binary64) : Nat := Nat.pow 2 (-x.scale).toNat

/-- Below zero; false for a number that is not a number and for both zeros. -/
def isNegative (x : Binary64) : Bool := x.negative && !x.isNaN && !x.isZero

/-- Significand and scale, rounded to 53 bits or to the least scale. -/
def ofScaled (negative : Bool) (significand : Nat) (scale : Int) : Binary64 :=
  if h : significand < 0x10000000000000 then ⟨negative, 0, ⟨significand, h⟩⟩
  else
    let exponent := (scale + 1075).toNat
    if h : exponent < 2047 ∧ significand - 0x10000000000000 < 0x10000000000000 then
      ⟨negative, ⟨exponent, by omega⟩, ⟨significand - 0x10000000000000, h.2⟩⟩
    else infinity negative

/-- The number nearest to a ratio, a tie going to the even one. -/
def ofRatio (negative : Bool) (num den : Nat) : Binary64 :=
  if num = 0 ∨ den = 0 then zero negative
  else
    let log : Int := (Nat.log2 num : Int) - (Nat.log2 den : Int)
    let below : Bool := decide (num * Nat.pow 2 (-log).toNat < den * Nat.pow 2 log.toNat)
    let scale : Int := max (-1074) (log - 52 - (if below then 1 else 0))
    let m := roundRatio (num * Nat.pow 2 (-scale).toNat) (den * Nat.pow 2 scale.toNat)
    if m = 0x20000000000000 then ofScaled negative 0x10000000000000 (scale + 1)
    else ofScaled negative m scale

/-- The number nearest to digits times a power of ten. -/
def ofDecimal (negative : Bool) (digits : Nat) (exponent : Int) : Binary64 :=
  if digits = 0 then zero negative
  else
    let magnitude : Int := exponent + (Nat.toDigits 10 digits).length
    if magnitude > 400 then infinity negative
    else if magnitude < -400 then zero negative
    else ofRatio negative (digits * Nat.pow 10 exponent.toNat) (Nat.pow 10 (-exponent).toNat)

def ofInt (i : Int) : Binary64 := ofRatio (decide (i < 0)) i.natAbs 1

/-- The integer part of a finite number. -/
def truncate (x : Binary64) : Int :=
  let n := x.numerator / x.denominator
  if x.negative then -(n : Int) else n

def mul (x y : Binary64) : Binary64 :=
  ofRatio (x.negative != y.negative) (x.numerator * y.numerator) (x.denominator * y.denominator)

/-- The sum of finite numbers; a sum of zero is positive. -/
def add (x y : Binary64) : Binary64 :=
  let part : Binary64 → Int := fun z => if z.negative then -(z.numerator : Int) else z.numerator
  let sum := part x * y.denominator + part y * x.denominator
  ofRatio (decide (sum < 0)) sum.natAbs (x.denominator * y.denominator)

def div (x y : Binary64) : Binary64 :=
  ofRatio (x.negative != y.negative) (x.numerator * y.denominator) (x.denominator * y.numerator)

/-- The nearest number after rounding to a count of decimal places, a tie going to the even
digit. -/
def roundPlaces (x : Binary64) (places : Nat) : Binary64 :=
  ofRatio x.negative (roundRatio (x.numerator * Nat.pow 10 places) x.denominator)
    (Nat.pow 10 places)

/-- The 64 bits: sign, exponent and fraction in this order. -/
def bits (x : Binary64) : Nat :=
  (if x.negative then 0x8000000000000000 else 0) + x.exponent.val * 0x10000000000000 +
    x.fraction.val

end Binary64

end BraceTemplate.Number
