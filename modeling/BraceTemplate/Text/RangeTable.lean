import BraceTemplate.Text.Basic

/-!
# BraceTemplate.Text.RangeTable

Tables of a character property, written as text. A set of code points is a list of ranges, a map
adds a constant to each code point of a range. Numbers are in base 36 and each range starts at
its distance from the end of the one before it.
-/

namespace BraceTemplate.Text

def base36Value (c : Char) : Nat :=
  if '0' ≤ c ∧ c ≤ '9' then c.toNat - 48 else c.toNat - 87

/-- Numbers separated by blanks; a minus sign in front of a number is kept apart. -/
def readNumbers (s : List Char) : List Int :=
  let step : List Int × Option (Bool × Nat) → Char → List Int × Option (Bool × Nat) := fun st c =>
    if c = ' ' ∨ c = '\n' then
      match st.2 with
      | some (neg, n) => ((if neg then -(n : Int) else n) :: st.1, none)
      | none => st
    else if c = '-' then (st.1, some (true, 0))
    else
      match st.2 with
      | some (neg, n) => (st.1, some (neg, n * 36 + base36Value c))
      | none => (st.1, some (false, base36Value c))
  ((s ++ [' ']).foldl step ([], none)).1.reverse

/-- Ranges of code points in increasing order. -/
structure RangeSet where
  ranges : Array (Nat × Nat)

/-- Index of the last entry whose key is at most `n`, by bisection. -/
def lastAtMost (size : Nat) (key : Nat → Nat) (n : Nat) : Option Nat :=
  let rec go (fuel lo hi : Nat) : Option Nat :=
    match fuel with
    | 0 => none
    | fuel + 1 =>
      if hi ≤ lo + 1 then (if key lo ≤ n then some lo else none)
      else
        let mid := (lo + hi) / 2
        if key mid ≤ n then go fuel mid hi else go fuel lo mid
  if size = 0 then none else go 40 0 size

namespace RangeSet

def ofText (s : String) : RangeSet :=
  let rec go (at_ : Nat) (out : Array (Nat × Nat)) : List Int → Array (Nat × Nat)
    | gap :: width :: rest =>
      let lo := at_ + gap.toNat
      let hi := lo + width.toNat
      go hi (out.push (lo, hi)) rest
    | _ => out
  ⟨go 0 #[] (readNumbers s.toList)⟩

def contains (s : RangeSet) (n : Nat) : Bool :=
  match lastAtMost s.ranges.size (fun i => (s.ranges.getD i (0, 0)).1) n with
  | some i => decide (n ≤ (s.ranges.getD i (0, 0)).2)
  | none => false

end RangeSet

/-- One run of a map: every `stride`-th code point from `first` on is moved by `delta`. -/
structure Shift where
  first : Nat
  steps : Nat
  stride : Nat
  delta : Int

/-- Runs in increasing order of their first code point, and the code points that go to more than
one. -/
structure ShiftMap where
  shifts : Array Shift
  expansions : List (Nat × List Nat)

namespace ShiftMap

def readShifts (s : String) : Array Shift :=
  let rec go (at_ : Nat) (out : Array Shift) : List Int → Array Shift
    | gap :: steps :: stride :: delta :: rest =>
      let first := at_ + gap.toNat
      go first (out.push ⟨first, steps.toNat, stride.toNat, delta⟩) rest
    | _ => out
  go 0 #[] (readNumbers s.toList)

/-- Groups of a count, a code point and its images. -/
def readExpansions (s : String) : List (Nat × List Nat) :=
  let rec go (fuel : Nat) (ns : List Nat) : List (Nat × List Nat) :=
    match fuel, ns with
    | fuel + 1, count :: point :: rest => (point, rest.take count) :: go fuel (rest.drop count)
    | _, _ => []
  let ns := (readNumbers s.toList).map Int.toNat
  go ns.length ns

def ofTexts (shifts expansions : String) : ShiftMap :=
  ⟨readShifts shifts, readExpansions expansions⟩

/-- The run that moves a code point, if any; runs do not interleave. -/
def shift? (m : ShiftMap) (n : Nat) : Option Shift :=
  match lastAtMost m.shifts.size (fun i => (m.shifts.getD i ⟨0, 0, 1, 0⟩).first) n with
  | none => none
  | some i =>
    let s := m.shifts.getD i ⟨0, 0, 1, 0⟩
    if n ≤ s.first + s.steps * s.stride ∧ (n - s.first) % s.stride = 0 then some s else none

def apply (m : ShiftMap) (n : Nat) : List Nat :=
  match m.expansions.find? (·.1 == n) with
  | some e => e.2
  | none =>
    match m.shift? n with
    | some s => [((n : Int) + s.delta).toNat]
    | none => [n]

end ShiftMap

end BraceTemplate.Text
