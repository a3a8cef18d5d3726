import BraceTemplate.Text.Basic

/-!
# BraceTemplate.Block

Output that may be taken back. The buffer is a list of parts; a mark is a number of parts, and
rolling back to a mark drops what was appended behind it. A block is opened at a mark and settled
when it ends: unless a replacement in it gave text, its output is dropped.
-/

namespace BraceTemplate

structure Buffer where
  /-- The parts, the last one first. -/
  parts : List Text
  /-- Characters in all parts. -/
  length : Nat
  deriving DecidableEq, Repr

namespace Buffer

def empty : Buffer := ⟨[], 0⟩

/-- Appends a part; empty text is no part. -/
def append (t : Text) (b : Buffer) : Buffer :=
  if t.isEmpty then b else ⟨t :: b.parts, b.length + t.length⟩

/-- The number of parts. -/
def mark (b : Buffer) : Nat := b.parts.length

/-- Keeps the parts before a mark; a negative mark counts from the end. -/
def rollback (mark : Int) (b : Buffer) : Buffer :=
  let kept := if mark < 0 then (b.parts.length + mark).toNat else mark.toNat
  let parts := b.parts.drop (b.parts.length - kept)
  ⟨parts, parts.foldl (fun n part => n + part.length) 0⟩

def text (b : Buffer) : Text := b.parts.reverse.flatten

end Buffer

structure Block where
  buffer : Buffer
  /-- Where the open block began. -/
  marker : Option Nat
  /-- Whether a replacement gave text since the last marker. -/
  satisfied : Bool
  deriving DecidableEq, Repr

namespace Block

def start : Block := ⟨.empty, none, false⟩

def isOpen (b : Block) : Bool := b.marker.isSome

def append (t : Text) (b : Block) : Block := { b with buffer := b.buffer.append t }

/-- Drops the output of an open block in which no replacement gave text. -/
def settle (b : Block) : Block :=
  match b.marker with
  | some m => if b.satisfied then b else { b with buffer := b.buffer.rollback m }
  | none => b

/-- Ends the block before, if one is open, and begins a block. -/
def opened (b : Block) : Block :=
  let b := b.settle
  ⟨b.buffer, some b.buffer.mark, false⟩

def closed (b : Block) : Block := ⟨b.settle.buffer, none, false⟩

/-- Takes note of the output of a replacement. -/
def record (t : Text) (b : Block) : Block := { b with satisfied := b.satisfied || !t.isEmpty }

/-- The block at the end of the template. -/
def finished (b : Block) : Block := { b.settle with marker := none }

end Block

end BraceTemplate
