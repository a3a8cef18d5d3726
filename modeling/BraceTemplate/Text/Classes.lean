import BraceTemplate.Text.ClassTables

/-!
# BraceTemplate.Text.Classes

Character classes: blanks, decimal digits of every script, word characters and characters that
may stand unescaped in quoted text. Each class is written out for ASCII and read from a table
above it.
-/

namespace BraceTemplate.Text

def isAsciiDigit (c : CodePoint) : Bool := decide ('0' ≤ c) && decide (c ≤ '9')

def isAsciiLetter (c : CodePoint) : Bool :=
  (decide ('a' ≤ c) && decide (c ≤ 'z')) || (decide ('A' ≤ c) && decide (c ≤ 'Z'))

/-- The value of a hexadecimal digit. -/
def hexValue? (c : CodePoint) : Option Nat :=
  if isAsciiDigit c then some (c.toNat - 48)
  else if 'a' ≤ c ∧ c ≤ 'f' then some (c.toNat - 87)
  else if 'A' ≤ c ∧ c ≤ 'F' then some (c.toNat - 55)
  else none

/-- Code points of the digit zero of each script with decimal digits. -/
def decimalZeros : List Nat :=
  [0x0030, 0x0660, 0x06f0, 0x07c0, 0x0966, 0x09e6, 0x0a66, 0x0ae6, 0x0b66, 0x0be6, 0x0c66,
   0x0ce6, 0x0d66, 0x0de6, 0x0e50, 0x0ed0, 0x0f20, 0x1040, 0x1090, 0x17e0, 0x1810, 0x1946,
   0x19d0, 0x1a80, 0x1a90, 0x1b50, 0x1bb0, 0x1c40, 0x1c50, 0xa620, 0xa8d0, 0xa900, 0xa9d0,
   0xa9f0, 0xaa50, 0xabf0, 0xff10, 0x104a0, 0x10d30, 0x11066, 0x110f0, 0x11136, 0x111d0,
   0x112f0, 0x11450, 0x114d0, 0x11650, 0x116c0, 0x11730, 0x118e0, 0x11950, 0x11c50, 0x11d50,
   0x11da0, 0x16a60, 0x16ac0, 0x16b50, 0x1d7ce, 0x1d7d8, 0x1d7e2, 0x1d7ec, 0x1d7f6, 0x1e140,
   0x1e2f0, 0x1e950, 0x1fbf0]

/-- The value of a decimal digit of any script. -/
def digitValue? (c : CodePoint) : Option Nat :=
  if c.toNat < 128 then
    if isAsciiDigit c then some (c.toNat - 48) else none
  else
    (decimalZeros.find? fun z => decide (z ≤ c.toNat) && decide (c.toNat ≤ z + 9)).map (c.toNat - ·)

def isDecimal (c : CodePoint) : Bool := (digitValue? c).isSome

/-- A word character: a letter, a character with a numeric value, or the low line. -/
def isWord (c : CodePoint) : Bool :=
  if c.toNat < 128 then isAsciiDigit c || isAsciiLetter c || c = '_'
  else alphanumericTable.contains c.toNat

/-- No surrogate prints. -/
def isPrintable : CodePoint → Bool
  | .surrogate _ => false
  | .char c =>
    if c.toNat < 128 then decide (32 ≤ c.toNat) && decide (c.toNat < 127)
    else printableTable.contains c.toNat

/-- Blanks: the characters that stripping removes. -/
def isBlank (c : CodePoint) : Bool :=
  let n := c.toNat
  if n < 128 then (decide (9 ≤ n) && decide (n ≤ 13)) || (decide (28 ≤ n) && decide (n ≤ 32))
  else
    n == 0x85 || n == 0xa0 || n == 0x1680 || (decide (0x2000 ≤ n) && decide (n ≤ 0x200a)) ||
      n == 0x2028 || n == 0x2029 || n == 0x202f || n == 0x205f || n == 0x3000

end BraceTemplate.Text
