import BraceTemplate.Text.Classes

/-!
# BraceTemplate.Text.Quoted

Quoted text: single quotes, or double quotes around text that holds single quotes and no double
ones; the quote, the backslash and every character that does not print are escaped.
-/

namespace BraceTemplate.Text

def hexDigits (width n : Nat) : Text :=
  List.replicate (width - (digits 16 n).length) (.char '0') ++ digits 16 n

/-- A character between quotes of the given kind. -/
def quoteChar (quote c : CodePoint) : Text :=
  if c = quote ∨ c = '\\' then ['\\', c]
  else if c = '\t' then ['\\', 't']
  else if c = '\n' then ['\\', 'n']
  else if c = '\r' then ['\\', 'r']
  else if isPrintable c then [c]
  else if c.toNat < 0x100 then '\\' :: 'x' :: hexDigits 2 c.toNat
  else if c.toNat < 0x10000 then '\\' :: 'u' :: hexDigits 4 c.toNat
  else '\\' :: 'U' :: hexDigits 8 c.toNat

def quoteFor (t : Text) : CodePoint := if t.contains '\'' && !t.contains '"' then '"' else '\''

def quoted (t : Text) : Text :=
  let q := quoteFor t
  q :: t.flatMap (quoteChar q) ++ [q]

/-- Octets in quotes behind the letter b; octets that are not printable ASCII are escaped. -/
def quotedOctets (octets : List Nat) : Text :=
  let q := quoteFor (octets.map CodePoint.ofNat)
  .char 'b' :: q :: octets.flatMap (fun n =>
    let c := CodePoint.ofNat n
    if n < 127 then quoteChar q c else .char '\\' :: .char 'x' :: hexDigits 2 n) ++ [q]

end BraceTemplate.Text
