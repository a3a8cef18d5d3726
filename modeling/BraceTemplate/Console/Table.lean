import BraceTemplate.Console.Line

/-!
# BraceTemplate.Console.Table

Tables with a heavy frame around their heading and a light one around their rows, and framed
texts. The text of a cell is wrapped to the width of its column.
-/

namespace BraceTemplate.Console

structure Column where
  heading : Text
  width : Nat

def padTo (width : Nat) (t : Text) : Text := t ++ List.replicate (width - cells t) (.char ' ')

/-- A text in the middle; of an odd number of blanks the last one stands behind it. -/
def centre (fill : CodePoint) (width : Nat) (t : Text) : Text :=
  let free := width - cells t
  List.replicate (free / 2) fill ++ t ++ List.replicate (free - free / 2) fill

/-- A line between rows. -/
def rule (left fill cross right : CodePoint) (columns : List Column) : Text :=
  left :: Text.join [cross] (columns.map fun c => List.replicate (c.width + 2) fill) ++ [right]

/-- One line of a row. -/
def rowLine (bar : CodePoint) (columns : List Column) (line : Nat) (cellLines : List (List Text)) :
    Text :=
  let parts := (columns.zip cellLines).map fun (p : Column × List Text) =>
    .char ' ' :: padTo p.1.width (p.2.getD line []) ++ [.char ' ']
  bar :: Text.join [bar] parts ++ [bar]

/-- The lines of a row. -/
def rowLines (bar : CodePoint) (columns : List Column) (row : List Text) : List Text :=
  let cellLines := (columns.zip row).map fun (p : Column × Text) => wrap p.1.width p.2
  let height := (cellLines.map List.length).foldl max 1
  (List.range height).map fun line => rowLine bar columns line cellLines

/-- A table as it is printed. -/
def table (title : Option Text) (columns : List Column) (rows : List (List Text)) : Text :=
  let width := columns.foldl (fun n c => n + c.width + 3) 1
  let lines :=
    (title.map (centre ' ' width)).toList ++
      [rule '┏' '━' '┳' '┓' columns] ++
      rowLines '┃' columns (columns.map (·.heading)) ++
      [rule '┡' '━' '╇' '┩' columns] ++
      rows.flatMap (rowLines '│' columns) ++
      [rule '└' '─' '┴' '┘' columns]
  lines.flatMap (· ++ [.char '\n'])

/-- A text of one line in a frame with a title. -/
def panel (title content : Text) : Text :=
  let width := cells content + 2
  .char '╭' :: centre '─' width (.char ' ' :: title ++ [.char ' ']) ++ "╮\n".toText ++
    .char '│' :: .char ' ' :: content ++ " │\n".toText ++
    .char '╰' :: List.replicate width (.char '─') ++ "╯\n".toText

end BraceTemplate.Console
