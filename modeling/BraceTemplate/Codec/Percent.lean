import BraceTemplate.Codec.Utf8
import BraceTemplate.Error

/-!
# BraceTemplate.Codec.Percent

Percent-encoding of form fields: letters, digits and four marks stand for themselves, a blank is a
plus sign, and every other octet of the text's UTF-8 form is written as two hexadecimal digits. A
text with a surrogate in it has no such form.
-/

namespace BraceTemplate.Codec.Percent

/-- Characters that stand for themselves. -/
def isPlain (c : CodePoint) : Bool :=
  Text.isAsciiLetter c || Text.isAsciiDigit c || c = '-' || c = '_' || c = '.' || c = '*'

def hexDigit (n : Nat) : CodePoint := .char (Nat.digitChar n).toUpper

def escape (octet : Nat) : Text := ['%', hexDigit (octet / 16), hexDigit (octet % 16)]

def encodeChar (c : CodePoint) : Text :=
  if isPlain c then [c] else if c = ' ' then ['+'] else (Utf8.encodeChar c).flatMap escape

def encode (t : Text) : Except Fault Text :=
  if t.IsScalar then .ok (t.flatMap encodeChar) else .error .loneSurrogate

/-- The octet that two hexadecimal digits at the front of a text stand for. -/
def escaped? : Text → Option Nat
  | a :: b :: _ =>
    match Text.hexValue? a, Text.hexValue? b with
    | some x, some y => some (16 * x + y)
    | _, _ => none
  | _ => none

/-- Offset of the first percent sign without two hexadecimal digits after it. -/
def firstIncomplete? (offset : Nat) : Text → Option Nat
  | [] => none
  | c :: t =>
    if c = '%' ∧ (escaped? t).isNone then some offset else firstIncomplete? (offset + 1) t

/-- The text that a text with complete escapes stands for: the octets of each ASCII run are read on
their own, and every other code point is left as it is. The octets of the run so far come first,
last one in front, then the count of escape digits still to be passed over. -/
def decodeFrom (run : List Nat) : Nat → Text → Text
  | _, [] => Utf8.decode run.reverse
  | n + 1, _ :: t => decodeFrom run n t
  | 0, c :: t =>
    if c = '%' then
      match escaped? t with
      | some b => decodeFrom (b :: run) 2 t
      | none => decodeFrom (37 :: run) 0 t
    else if c = '+' then decodeFrom (32 :: run) 0 t
    else if c.toNat < 0x80 then decodeFrom (c.toNat :: run) 0 t
    else Utf8.decode run.reverse ++ c :: decodeFrom [] 0 t

def decode (t : Text) : Except ExpansionError Text :=
  match firstIncomplete? 0 t with
  | some offset => .error (.incompleteEscape offset t)
  | none => .ok (decodeFrom [] 0 t)

end BraceTemplate.Codec.Percent
