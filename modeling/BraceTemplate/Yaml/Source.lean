import BraceTemplate.Fault
import BraceTemplate.Text.Basic

/-!
# BraceTemplate.Yaml.Source

The characters of a YAML text, each with the place where it stands. Every way to end a line is one
line feed here, apart from the two separators of Unicode, which stay what they are.
-/

namespace BraceTemplate.Yaml

/-- Why a text is no document. -/
inductive Error where
  | malformed
  /-- A value that is written well and does not exist. -/
  | fault (fault : Fault)
  deriving DecidableEq, Repr

structure Placed where
  char : CodePoint
  line : Nat
  column : Nat
  /-- Characters before it. -/
  index : Nat
  deriving DecidableEq, Repr, Inhabited

abbrev Source : Type := List Placed

def byteOrderMark : CodePoint := CodePoint.ofNat 0xfeff

/-- Characters that a document may hold unescaped. -/
def isAllowed (c : CodePoint) : Bool :=
  let n := c.toNat
  c = '\t' || c = '\n' || c = '\r' || (decide (0x20 ≤ n) && decide (n ≤ 0x7e)) || n = 0x85 ||
    (decide (0xa0 ≤ n) && decide (n ≤ 0xd7ff)) || (decide (0xe000 ≤ n) && decide (n ≤ 0xfffd)) ||
    decide (0x10000 ≤ n)

def isBreak (c : CodePoint) : Bool := c = '\n' || c = '\u2028' || c = '\u2029'

def isSpaceOrTab (c : CodePoint) : Bool := c = ' ' || c = '\t'

/-- Blanks, tabs and line breaks. -/
def isSpacing (c : CodePoint) : Bool := isSpaceOrTab c || isBreak c

def isSpaceOrBreak (c : CodePoint) : Bool := c = ' ' || isBreak c

/-- Line breaks other than the separators as line feeds. -/
def unifyBreaks : Text → Text
  | [] => []
  | '\r' :: '\n' :: t => '\n' :: unifyBreaks t
  | c :: t => (if c = '\r' ∨ c = '\x85' then '\n' else c) :: unifyBreaks t

namespace Source

/-- The characters of a text from a place on; a byte order mark takes no column. -/
def place (line column index : Nat) : Text → Source
  | [] => []
  | c :: t =>
    ⟨c, line, column, index⟩ ::
      (if isBreak c then place (line + 1) 0 (index + 1) t
      else place line (if c = byteOrderMark then column else column + 1) (index + 1) t)

/-- The characters of a text, without a byte order mark at its beginning. -/
def ofText (t : Text) : Source :=
  match unifyBreaks t with
  | [] => []
  | c :: t => if c = byteOrderMark then place 0 0 0 t else place 0 0 0 (c :: t)

def text (s : Source) : Text := s.map (·.char)

/-- Whether the first character is of a class. -/
def starts (p : CodePoint → Bool) (s : Source) : Bool := s.head?.any fun c => p c.char

/-- Whether the first character is of a class or there is none. -/
def endsOr (p : CodePoint → Bool) (s : Source) : Bool := s.head?.all fun c => p c.char

def startsWith (c : CodePoint) (s : Source) : Bool := s.starts (· = c)

/-- The first characters. -/
def first (n : Nat) (s : Source) : Text := text (s.take n)

/-- Without the first characters. -/
def behind (n : Nat) (s : Source) : Source := s.drop n

def column (s : Source) : Nat := (s.head?.map (·.column)).getD 0

def takeRun (p : CodePoint → Bool) (s : Source) : Text := text (s.takeWhile fun c => p c.char)

def dropRun (p : CodePoint → Bool) (s : Source) : Source := s.dropWhile fun c => p c.char

/-- Whether a document marker of three equal characters begins here. -/
def startsMarker (mark : CodePoint) (s : Source) : Bool :=
  s.first 3 = [mark, mark, mark] && (s.behind 3).endsOr isSpacing

def startsAnyMarker (s : Source) : Bool := s.startsMarker '-' || s.startsMarker '.'

end Source

end BraceTemplate.Yaml
