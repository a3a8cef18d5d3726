import BraceTemplate.Fault
import BraceTemplate.Text.Basic

/-!
# BraceTemplate.Codec.Utf16

UTF-16 code units of a text, which must not have a surrogate in it to be encoded.
-/

namespace BraceTemplate.Codec.Utf16

/-- The code units of a code point; a surrogate is a unit itself. -/
def encodeChar (c : CodePoint) : List Nat :=
  let n := c.toNat
  if n < 0x10000 then [n]
  else [0xd800 + (n - 0x10000) / 0x400, 0xdc00 + (n - 0x10000) % 0x400]

/-- The text with every high surrogate that a low one follows joined with it into the character that
the two stand for. -/
def joinPairs : Text → Text
  | .surrogate high :: .surrogate low :: t =>
    if high.val < 0x400 ∧ 0x400 ≤ low.val then
      CodePoint.ofNat (0x10000 + high * 0x400 + (low - 0x400)) :: joinPairs t
    else .surrogate high :: joinPairs (.surrogate low :: t)
  | c :: t => c :: joinPairs t
  | [] => []

def encode (t : Text) : Except Fault (List Nat) :=
  if t.IsScalar then .ok (t.flatMap encodeChar) else .error .loneSurrogate

end BraceTemplate.Codec.Utf16
