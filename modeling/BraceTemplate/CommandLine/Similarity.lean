import BraceTemplate.Text.Basic

/-!
# BraceTemplate.CommandLine.Similarity

How alike two words are: twice the characters that they share, in order and in blocks as long as
possible, as a share of the characters of both.
-/

namespace BraceTemplate.CommandLine

/-- The length of the longest common beginning. -/
def commonLength : Text → Text → Nat
  | a :: s, b :: t => if a = b then commonLength s t + 1 else 0
  | _, _ => 0

/-- A common block of two words: where it begins in each, and its length. -/
structure CommonBlock where
  left : Nat
  right : Nat
  length : Nat
  deriving DecidableEq, Repr

/-- The longest common block; of several the first. -/
def longestBlock (s t : Text) : CommonBlock :=
  let starts := (List.range s.length).flatMap fun i => (List.range t.length).map fun j => (i, j)
  starts.foldl (fun (best : CommonBlock) (p : Nat × Nat) =>
    let n := commonLength (s.drop p.1) (t.drop p.2)
    if best.length < n then ⟨p.1, p.2, n⟩ else best) ⟨0, 0, 0⟩

/-- The characters of the longest common block and of the blocks before and behind it. -/
def sharedCount : Nat → Text → Text → Nat
  | 0, _, _ => 0
  | fuel + 1, s, t =>
    let b := longestBlock s t
    if b.length = 0 then 0
    else
      b.length + sharedCount fuel (s.take b.left) (t.take b.right) +
        sharedCount fuel (s.drop (b.left + b.length)) (t.drop (b.right + b.length))

/-- Whether the lengths of two words leave room for a share of six tenths. -/
def mayBeClose (s t : Text) : Bool :=
  decide (3 * (s.length + t.length) ≤ 10 * min s.length t.length)

/-- Whether words share at least six tenths of their characters. -/
def isClose (s t : Text) : Bool :=
  mayBeClose s t && decide (3 * (s.length + t.length) ≤ 10 * sharedCount (s.length + 1) s t)

/-- Puts a word into a list in increasing order. -/
def insertSorted (w : Text) : List Text → List Text
  | [] => [w]
  | v :: vs => if w < v then w :: v :: vs else v :: insertSorted w vs

/-- The words that are close to a given one, in order. -/
def closeWords (given : Text) (words : List Text) : List Text :=
  (words.filter fun w => isClose w given).foldr insertSorted []

end BraceTemplate.CommandLine
