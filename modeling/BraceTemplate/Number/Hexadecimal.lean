import BraceTemplate.Number.Decimal

/-!
# BraceTemplate.Number.Hexadecimal

The exact hexadecimal text of a floating point number: one digit before the point, the fraction
without trailing zeros, and the power of two in decimal.
-/

namespace BraceTemplate.Number.Binary64

/-- The fraction's thirteen hexadecimal digits. -/
def fractionDigits (x : Binary64) : Text := zeroPad 13 (.digits 16 x.fraction.val)

/-- The power of two of the digit before the point. -/
def hexExponent (x : Binary64) : Int :=
  if x.exponent.val = 0 then (if x.fraction.val = 0 then 0 else -1022)
  else (x.exponent.val : Int) - 1023

def hexText (x : Binary64) : Text :=
  if x.isNaN then "NaN".toText
  else
    let sign : Text := if x.negative then ['-'] else []
    if x.isInfinite then sign ++ "Infinity".toText
    else
      let trimmed := (x.fractionDigits.reverse.dropWhile (· = .char '0')).reverse
      sign ++ (if x.exponent.val = 0 then "0x0." else "0x1.").toText ++
        (if trimmed.isEmpty then [.char '0'] else trimmed) ++ .char 'p' :: intText x.hexExponent

end BraceTemplate.Number.Binary64
