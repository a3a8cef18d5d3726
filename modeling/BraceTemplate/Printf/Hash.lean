import BraceTemplate.Codec.Utf16
import BraceTemplate.Value

/-!
# BraceTemplate.Printf.Hash

A 32-bit hash code of any value: booleans have one each, numbers fold their 64-bit form, and a
text is a polynomial in 31 over its UTF-16 units, reduced at every step.
-/

namespace BraceTemplate.Printf

def wordSize : Nat := 0x100000000

/-- The polynomial in 31 over the units, first unit first. -/
def hashUnits (units : List Nat) : Nat :=
  units.foldl (fun code u => (31 * code + u) % wordSize) 0

def hashText (t : Text) : Except Fault Nat := (Codec.Utf16.encode t).map hashUnits

/-- An integer's low word, or its low and high words by exclusive or if it needs more than one. -/
def hashInteger (i : Int) : Nat :=
  let low := (i % wordSize).toNat
  if -0x80000000 ≤ i ∧ i < 0x80000000 then low
  else Nat.xor low ((i / wordSize) % wordSize).toNat

def hashValue (v : Value) : Except Fault Nat :=
  match v with
  | .bool b => .ok (if b then 1231 else 1237)
  | .int i => .ok (hashInteger i)
  | .float x => .ok (Nat.xor (x.bits % wordSize) (x.bits / wordSize))
  | v =>
    match v.toText with
    | .error f => .error f
    | .ok t => hashText t

end BraceTemplate.Printf
