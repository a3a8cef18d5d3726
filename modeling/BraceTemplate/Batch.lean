import BraceTemplate.Expansion

/-!
# BraceTemplate.Batch

One template for many parameter sets. A set whose expansion fails has no output and an error; the
other sets are not affected. A large batch is cut into chunks of one size, which are rendered on
their own and put together in order.
-/

namespace BraceTemplate

structure BatchOptions where
  batchSize : Int := 100
  workers : Int := 4
  parallel : Bool := true
  deriving DecidableEq, Repr

/-- The outputs of some consecutive sets, and the errors by the number of the set. -/
structure Chunk where
  outputs : List (Option Text)
  errors : List (Nat × ExpansionError)
  deriving DecidableEq, Repr

structure BatchResult where
  outputs : List (Option Text)
  errors : List (Nat × ExpansionError)
  setCount : Nat
  batchSize : Int
  parallel : Bool
  /-- How many sets were done at each report of progress. -/
  progress : List Nat
  deriving DecidableEq, Repr

namespace Chunk

def empty : Chunk := ⟨[], []⟩

/-- Renders sets of which the first has a given number; a fault ends the rendering. -/
def render (expandSet : List Value → Except Failure Text) : Nat → List (List Value) →
    Except Fault Chunk
  | _, [] => .ok empty
  | n, set :: sets =>
    let first : Except Fault Chunk := match expandSet set with
      | .ok t => .ok ⟨[some t], []⟩
      | .error (.expansion e) => .ok ⟨[none], [(n, e)]⟩
      | .error (.fault f) => .error f
    match first with
    | .error f => .error f
    | .ok a =>
      match render expandSet (n + 1) sets with
      | .error f => .error f
      | .ok b => .ok ⟨a.outputs ++ b.outputs, a.errors ++ b.errors⟩

/-- Cuts sets into chunks of a size, each with the number of its first set. -/
def cut (size : Nat) (start : Nat) (sets : List (List Value)) : List (Nat × List (List Value)) :=
  if _h : size = 0 ∨ sets = [] then []
  else (start, sets.take size) :: cut size (start + size) (sets.drop size)
termination_by sets.length
decreasing_by
  simp only [not_or] at _h
  have := List.length_pos_iff.2 _h.2
  simp only [List.length_drop]
  omega

/-- Renders chunks in order. -/
def renderAll (expandSet : List Value → Except Failure Text) :
    List (Nat × List (List Value)) → Except Fault (List Chunk)
  | [] => .ok []
  | (start, sets) :: rest =>
    match render expandSet start sets with
    | .error f => .error f
    | .ok c =>
      match renderAll expandSet rest with
      | .error f => .error f
      | .ok cs => .ok (c :: cs)

end Chunk

namespace BatchResult

def errorCount (r : BatchResult) : Nat := r.errors.length

def successCount (r : BatchResult) : Int := r.setCount - r.errors.length

/-- The share of the sets that succeeded, in per cent. -/
def successRate (r : BatchResult) : Number.Binary64 :=
  if r.setCount = 0 then Number.Binary64.zero false
  else
    (Number.Binary64.ofRatio false r.successCount.toNat r.setCount).mul (Number.Binary64.ofInt 100)

end BatchResult

/-- Renders a batch of sets. Without parallel rendering, and for fewer sets than a chunk has, all
sets are one chunk; a negative size gives no chunk at all. -/
def renderBatch (expandSet : List Value → Except Failure Text) (options : BatchOptions)
    (sets : List (List Value)) : Except Fault BatchResult :=
  let n := sets.length
  let parallel := options.parallel && decide (options.batchSize ≤ n)
  let result : List Chunk → List Nat → BatchResult := fun chunks progress =>
    ⟨chunks.flatMap (·.outputs), chunks.flatMap (·.errors), n, options.batchSize, parallel,
      progress⟩
  if parallel then
    if options.workers ≤ 0 ∨ options.batchSize = 0 then .error .emptyBatch
    else
      match Chunk.renderAll expandSet (Chunk.cut options.batchSize.toNat 0 sets) with
      | .error f => .error f
      | .ok chunks => .ok (result chunks (chunks.map (·.outputs.length)))
  else
    match Chunk.render expandSet 0 sets with
    | .error f => .error f
    | .ok chunk => .ok (result [chunk] (if n = 0 then [] else [n]))

end BraceTemplate
