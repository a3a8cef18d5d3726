import BraceTemplate.Console.WidthTable
import BraceTemplate.Text.Classes

/-!
# BraceTemplate.Console.Line

Text on a console of a given width. A line is broken before a word that does not fit, and a word
that fits on no line is broken itself; blanks stay where they are, but none goes beyond the width.
-/

namespace BraceTemplate.Console

/-- Cells that a character takes. -/
def charWidth (c : CodePoint) : Nat :=
  if zeroWidthTable.contains c.toNat then 0 else if doubleWidthTable.contains c.toNat then 2 else 1

/-- Cells that a text takes. -/
def cells (t : Text) : Nat := t.foldl (fun n c => n + charWidth c) 0

/-- Characters that move the cursor and are left out. -/
def isCursorControl (c : CodePoint) : Bool :=
  c = '\x07' || c = '\x08' || c = '\x0b' || c = '\x0c' || c = '\r'

def dropControls (t : Text) : Text := t.filter (!isCursorControl ·)

/-- A line with blanks up to the next multiple of eight cells in place of each tab. -/
def expandTabs (column : Nat) : Text → Text
  | [] => []
  | c :: t =>
    if c = '\t' then
      let next := (column / 8 + 1) * 8
      List.replicate (next - column) (.char ' ') ++ expandTabs next t
    else c :: expandTabs (column + charWidth c) t

/-- A word with the blanks behind it, and those before it if it is the first, and the rest. -/
def splitWord (t : Text) : Text × Text :=
  let lead := t.takeWhile Text.isBlank
  let rest := t.dropWhile Text.isBlank
  let body := rest.takeWhile (!Text.isBlank ·)
  let rest := rest.dropWhile (!Text.isBlank ·)
  (lead ++ body ++ rest.takeWhile Text.isBlank, rest.dropWhile Text.isBlank)

/-- The words of a line that is not blank. -/
def words : Nat → Text → List Text
  | 0, _ => []
  | fuel + 1, t =>
    if t.isEmpty then []
    else
      let (word, rest) := splitWord t
      word :: words fuel rest

/-- A text cut into pieces that fit the width, given the cells taken so far. -/
def chop (width taken : Nat) : Text → List Text
  | [] => [[]]
  | c :: t =>
    if taken + charWidth c > width then
      match chop width (charWidth c) t with
      | piece :: pieces => [] :: (c :: piece) :: pieces
      | [] => [[c]]
    else
      match chop width (taken + charWidth c) t with
      | piece :: pieces => (c :: piece) :: pieces
      | [] => [[c]]

/-- Lines that are complete, the last one first, and the line under way. -/
structure Wrapping where
  done : List Text
  current : Text

def dropRight (t : Text) : Text := (t.reverse.dropWhile Text.isBlank).reverse

/-- Puts a word behind the line under way or on new lines. -/
def Wrapping.add (width : Nat) (w : Wrapping) (word : Text) : Wrapping :=
  let length := cells (dropRight word)
  if cells w.current + length ≤ width then { w with current := w.current ++ word }
  else
    let done := if w.current.isEmpty then w.done else w.current :: w.done
    if width < length then
      let pieces := chop width 0 word
      ⟨pieces.dropLast.reverse ++ done, pieces.getLastD []⟩
    else ⟨done, word⟩

/-- A line without blanks at its end that go beyond the width. -/
def cropBlanks (width : Nat) (t : Text) : Text :=
  let blanks := (t.reverse.takeWhile Text.isBlank).length
  t.take (t.length - min blanks (t.length - width))

/-- The characters that fit; half of a wide character is a blank. -/
def crop (width : Nat) : Text → Text
  | [] => []
  | c :: t =>
    if charWidth c ≤ width then c :: crop (width - charWidth c) t
    else List.replicate width ' '

/-- The lines of a text without line feeds. -/
def wrapLine (width : Nat) (t : Text) : List Text :=
  let t := if t.contains '\t' then expandTabs 0 t else t
  let lines :=
    if t.all Text.isBlank then [t]
    else
      let w := (words t.length t).foldl (Wrapping.add width) ⟨[], []⟩
      (w.current :: w.done).reverse
  lines.map fun line =>
    let line := cropBlanks width line
    if cells line > width then crop width line else line

/-- The lines of a text. -/
def wrap (width : Nat) (t : Text) : List Text := (Text.splitOn '\n' t).flatMap (wrapLine width)

/-- The width of the console. -/
def consoleWidth : Nat := 80

/-- A text as it is printed, with a line feed behind it. -/
def print (t : Text) : Text := Text.join ['\n'] (wrap consoleWidth (dropControls t)) ++ [.char '\n']

end BraceTemplate.Console
