import BraceTemplate.Fault
import BraceTemplate.Text.Basic

/-!
# BraceTemplate.Codec.Utf8

UTF-8 octets of a text, which must not have a surrogate in it, and the text of any octets: a longest
part of an octet sequence that could begin a character and does not complete one becomes one
replacement character.
-/

namespace BraceTemplate.Codec.Utf8

def encodeChar (c : CodePoint) : List Nat :=
  let n := c.toNat
  if n < 0x80 then [n]
  else if n < 0x800 then [0xc0 + n / 64, 0x80 + n % 64]
  else if n < 0x10000 then [0xe0 + n / 4096, 0x80 + n / 64 % 64, 0x80 + n % 64]
  else [0xf0 + n / 262144, 0x80 + n / 4096 % 64, 0x80 + n / 64 % 64, 0x80 + n % 64]

def encode (t : Text) : Except Fault (List Nat) :=
  if t.IsScalar then .ok (t.flatMap encodeChar) else .error .loneSurrogate

def replacement : CodePoint := CodePoint.ofNat 0xfffd

/-- A character that has begun: how many octets it still needs, the range of the next one, and the
bits read so far. -/
structure Pending where
  owed : Nat
  low : Nat
  high : Nat
  bits : Nat

/-- What a first octet stands for. -/
inductive First where
  | char (c : CodePoint)
  | pending (p : Pending)
  | invalid

def first (b : Nat) : First :=
  if b < 0x80 then .char (CodePoint.ofNat b)
  else if b < 0xc2 then .invalid
  else if b < 0xe0 then .pending ⟨1, 0x80, 0xbf, b - 0xc0⟩
  else if b = 0xe0 then .pending ⟨2, 0xa0, 0xbf, 0⟩
  else if b = 0xed then .pending ⟨2, 0x80, 0x9f, 0xd⟩
  else if b < 0xf0 then .pending ⟨2, 0x80, 0xbf, b - 0xe0⟩
  else if b = 0xf0 then .pending ⟨3, 0x90, 0xbf, 0⟩
  else if b < 0xf4 then .pending ⟨3, 0x80, 0xbf, b - 0xf0⟩
  else if b = 0xf4 then .pending ⟨3, 0x80, 0x8f, 4⟩
  else .invalid

def decodeFrom : Option Pending → List Nat → Text
  | none, [] => []
  | some _, [] => [replacement]
  | none, b :: bs =>
    match first b with
    | .char c => c :: decodeFrom none bs
    | .pending p => decodeFrom (some p) bs
    | .invalid => replacement :: decodeFrom none bs
  | some p, b :: bs =>
    if p.low ≤ b ∧ b ≤ p.high then
      let bits := p.bits * 64 + (b - 0x80)
      if p.owed ≤ 1 then CodePoint.ofNat bits :: decodeFrom none bs
      else decodeFrom (some ⟨p.owed - 1, 0x80, 0xbf, bits⟩) bs
    else
      match first b with
      | .char c => replacement :: c :: decodeFrom none bs
      | .pending q => replacement :: decodeFrom (some q) bs
      | .invalid => replacement :: replacement :: decodeFrom none bs

def decode (octets : List Nat) : Text := decodeFrom none octets

/-- The text that octets are the form of, if they are well-formed. -/
def decode? (octets : List Nat) : Option Text :=
  let t := decode octets
  match encode t with
  | .ok bytes => if bytes = octets then some t else none
  | .error _ => none

end BraceTemplate.Codec.Utf8
