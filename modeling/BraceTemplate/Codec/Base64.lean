import BraceTemplate.Codec.Utf8
import BraceTemplate.Text.Classes

/-!
# BraceTemplate.Codec.Base64

Base64 of a text's UTF-8 octets. Decoding wants digits of the standard alphabet followed by
padding only; padding may be left out, and padding after a whole group is passed over.
-/

namespace BraceTemplate.Codec.Base64

def digit (n : Nat) : CodePoint :=
  if n < 26 then CodePoint.ofNat (65 + n)
  else if n < 52 then CodePoint.ofNat (71 + n)
  else if n < 62 then CodePoint.ofNat (n - 4)
  else if n = 62 then '+' else '/'

def digitValue? (c : CodePoint) : Option Nat :=
  if 'A' ≤ c ∧ c ≤ 'Z' then some (c.toNat - 65)
  else if 'a' ≤ c ∧ c ≤ 'z' then some (c.toNat - 71)
  else if '0' ≤ c ∧ c ≤ '9' then some (c.toNat + 4)
  else if c = '+' then some 62
  else if c = '/' then some 63
  else none

def encodeOctets : List Nat → Text
  | [] => []
  | [a] => [digit (a / 4), digit (a % 4 * 16), '=', '=']
  | [a, b] => [digit (a / 4), digit (a % 4 * 16 + b / 16), digit (b % 16 * 4), '=']
  | a :: b :: c :: r =>
    digit (a / 4) :: digit (a % 4 * 16 + b / 16) :: digit (b % 16 * 4 + c / 64) :: digit (c % 64) ::
      encodeOctets r

/-- Octets of digits and padding, or nothing. -/
def decodeOctets? : Text → Option (List Nat)
  | [] => some []
  | '=' :: r => if r.all (· = '=') then some [] else none
  | [a, b, '=', '='] =>
    match digitValue? a, digitValue? b with
    | some x, some y => some [x * 4 + y / 16]
    | _, _ => none
  | [a, b, c, '='] =>
    match digitValue? a, digitValue? b, digitValue? c with
    | some x, some y, some z => some [x * 4 + y / 16, y % 16 * 16 + z / 4]
    | _, _, _ => none
  | a :: b :: c :: d :: r =>
    match digitValue? a, digitValue? b, digitValue? c, digitValue? d with
    | some x, some y, some z, some w =>
      (decodeOctets? r).map fun bytes =>
        (x * 4 + y / 16) :: (y % 16 * 16 + z / 4) :: (z % 4 * 64 + w) :: bytes
    | _, _, _, _ => none
  | _ => none

/-- Padding that brings a text without any to whole groups. -/
def pad (t : Text) : Text :=
  let n := t.length % 4
  if (n = 2 ∨ n = 3) ∧ t.getLast? ≠ some (.char '=') then t ++ List.replicate (4 - n) (.char '=')
  else t

def encode (t : Text) : Except Fault Text := (Utf8.encode t).map encodeOctets

/-- The decoded text; octets that are no UTF-8 become replacement characters. -/
def decode? (t : Text) : Option Text :=
  match pad t with
  | '=' :: _ => none
  | p => (decodeOctets? p).map Utf8.decode

end BraceTemplate.Codec.Base64
