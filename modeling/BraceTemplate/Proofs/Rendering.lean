import BraceTemplate.Batch
import Mathlib.Algebra.Ring.Nat

/-!
# BraceTemplate.Proofs.Rendering

What a batch comes to, without the order of work. The first set whose expansion ends in a fault
decides the whole batch; if there is none, every set has its output and, where its expansion fails,
an error under its own number (`batchEnd_renderBatch`). How the sets are cut into chunks makes no
difference, because chunks rendered one after the other and joined are what all their sets give in
one chunk (`Chunk.join_renderAll_cut`).
-/

namespace BraceTemplate

namespace Failure

/-- How an expansion failed, if it failed with an expansion error. -/
def error? : Except Failure Text → Option ExpansionError
  | .error (.expansion e) => some e
  | _ => none

/-- How an expansion failed, if it ended in a fault. -/
def fault? : Except Failure Text → Option Fault
  | .error (.fault f) => some f
  | _ => none

theorem fault?_eq_some_iff {r : Except Failure Text} {g : Fault} :
    fault? r = some g ↔ r = .error (.fault g) := by
  rcases r with (e | g') | t
  · simp [fault?]
  · simp [fault?]
  · simp [fault?]

end Failure

section

variable (expandSet : List Value → Except Failure Text)

/-- The fault of the first set that ends in one. -/
def firstFault? (sets : List (List Value)) : Option Fault :=
  sets.findSome? fun set => Failure.fault? (expandSet set)

/-- One output for each set. -/
def outputsOf (sets : List (List Value)) : List (Option Text) :=
  sets.map fun set => (expandSet set).toOption

/-- The errors of sets that are numbered from `n`. -/
def errorsFrom (n : Nat) (sets : List (List Value)) : List (Nat × ExpansionError) :=
  (sets.zipIdx n).filterMap fun (set, i) => (Failure.error? (expandSet set)).map (i, ·)

end

section

variable {expandSet : List Value → Except Failure Text}

theorem firstFault?_cons_of_none {set : List Value} (h : Failure.fault? (expandSet set) = none)
    (sets : List (List Value)) :
    firstFault? expandSet (set :: sets) = firstFault? expandSet sets :=
  List.findSome?_cons_of_isNone (by rw [h]; rfl)

theorem firstFault?_append (xs ys : List (List Value)) :
    firstFault? expandSet (xs ++ ys) = (firstFault? expandSet xs).or (firstFault? expandSet ys) :=
  List.findSome?_append

theorem firstFault?_eq_some {sets : List (List Value)} {g : Fault}
    (h : firstFault? expandSet sets = some g) :
    ∃ before set after, sets = before ++ set :: after ∧ expandSet set = .error (.fault g) ∧
      ∀ earlier ∈ before, Failure.fault? (expandSet earlier) = none := by
  obtain ⟨before, set, after, hsets, hset, hbefore⟩ := List.findSome?_eq_some_iff.1 h
  exact ⟨before, set, after, hsets, Failure.fault?_eq_some_iff.1 hset, hbefore⟩

theorem firstFault?_eq_none_iff {sets : List (List Value)} :
    firstFault? expandSet sets = none ↔
      ∀ set ∈ sets, Failure.fault? (expandSet set) = none :=
  List.findSome?_eq_none_iff

theorem outputsOf_cons (set : List Value) (sets : List (List Value)) :
    outputsOf expandSet (set :: sets) = (expandSet set).toOption :: outputsOf expandSet sets := rfl

theorem outputsOf_append (xs ys : List (List Value)) :
    outputsOf expandSet (xs ++ ys) = outputsOf expandSet xs ++ outputsOf expandSet ys :=
  List.map_append

theorem errorsFrom_cons (n : Nat) (set : List Value) (sets : List (List Value)) :
    errorsFrom expandSet n (set :: sets) =
      ((Failure.error? (expandSet set)).map (n, ·)).toList ++
        errorsFrom expandSet (n + 1) sets := by
  simp only [errorsFrom, List.zipIdx_cons, List.filterMap_cons]
  cases Failure.error? (expandSet set) with
  | none => rfl
  | some e => rfl

theorem errorsFrom_append (n : Nat) (xs ys : List (List Value)) :
    errorsFrom expandSet n (xs ++ ys) =
      errorsFrom expandSet n xs ++ errorsFrom expandSet (n + xs.length) ys := by
  rw [errorsFrom, errorsFrom, errorsFrom, List.zipIdx_append, List.filterMap_append]

end

namespace Chunk

variable {expandSet : List Value → Except Failure Text}

/-- Two chunks of sets that follow one another. -/
def append (a b : Chunk) : Chunk := ⟨a.outputs ++ b.outputs, a.errors ++ b.errors⟩

/-- Chunks in order as one. -/
def join (cs : List Chunk) : Chunk := ⟨cs.flatMap (·.outputs), cs.flatMap (·.errors)⟩

theorem append_empty (c : Chunk) : c.append empty = c := by simp [empty, append]

theorem append_assoc (a b c : Chunk) : (a.append b).append c = a.append (b.append c) := by
  simp [append]

theorem render_cons_of_text {set : List Value} {t : Text} (h : expandSet set = .ok t) (n : Nat)
    (sets : List (List Value)) :
    render expandSet n (set :: sets) =
      append ⟨[some t], []⟩ <$> render expandSet (n + 1) sets := by
  rw [render, h]
  cases render expandSet (n + 1) sets with
  | ok c => rfl
  | error g => rfl

theorem render_cons_of_failed {set : List Value} {e : ExpansionError}
    (h : expandSet set = .error (.expansion e)) (n : Nat) (sets : List (List Value)) :
    render expandSet n (set :: sets) =
      append ⟨[none], [(n, e)]⟩ <$> render expandSet (n + 1) sets := by
  rw [render, h]
  cases render expandSet (n + 1) sets with
  | ok c => rfl
  | error g => rfl

theorem render_cons_of_fault {set : List Value} {g : Fault}
    (h : expandSet set = .error (.fault g)) (n : Nat) (sets : List (List Value)) :
    render expandSet n (set :: sets) = .error g := by
  rw [render, h]

/-- A chunk gives its first fault, or else the outputs and the errors of all its sets; by induction
on the sets. -/
theorem render_eq (n : Nat) (sets : List (List Value)) :
    render expandSet n sets =
      match firstFault? expandSet sets with
      | some g => .error g
      | none => .ok ⟨outputsOf expandSet sets, errorsFrom expandSet n sets⟩ := by
  induction sets generalizing n with
  | nil => rfl
  | cons set sets ih =>
    cases hset : expandSet set with
    | ok t =>
      rw [render_cons_of_text hset, ih, firstFault?_cons_of_none (by rw [hset]; rfl)]
      cases firstFault? expandSet sets with
      | some g => rfl
      | none =>
        rw [outputsOf_cons, errorsFrom_cons, hset]
        rfl
    | error e =>
      cases e with
      | expansion e =>
        rw [render_cons_of_failed hset, ih, firstFault?_cons_of_none (by rw [hset]; rfl)]
        cases firstFault? expandSet sets with
        | some g => rfl
        | none =>
          rw [outputsOf_cons, errorsFrom_cons, hset]
          rfl
      | fault g =>
        rw [render_cons_of_fault hset]
        simp [firstFault?, hset, Failure.fault?]

theorem render_append (n : Nat) (xs ys : List (List Value)) :
    render expandSet n (xs ++ ys) =
      match render expandSet n xs with
      | .error g => .error g
      | .ok c => c.append <$> render expandSet (n + xs.length) ys := by
  rw [render_eq, render_eq, render_eq, firstFault?_append, outputsOf_append, errorsFrom_append]
  cases firstFault? expandSet xs with
  | some g => rfl
  | none =>
    cases firstFault? expandSet ys with
    | some g => rfl
    | none => rfl

/-- Chunks rendered in order and joined are all their sets as one chunk; by induction on the
cutting. -/
theorem join_renderAll_cut {size : Nat} (hsize : size ≠ 0) (n : Nat)
    (sets : List (List Value)) :
    join <$> renderAll expandSet (cut size n sets) = render expandSet n sets := by
  induction n, sets using cut.induct size with
  | case1 n sets h =>
    obtain rfl := h.resolve_left hsize
    rw [cut, dif_pos h]
    rfl
  | case2 n sets h ih =>
    have hstart : render expandSet (n + (sets.take size).length) (sets.drop size) =
        render expandSet (n + size) (sets.drop size) := by
      by_cases hle : size ≤ sets.length
      · rw [List.length_take_of_le hle]
      · rw [List.drop_eq_nil_of_le (by omega)]
        rfl
    have hparts : render expandSet n (sets.take size ++ sets.drop size) = _ := render_append n _ _
    rw [List.take_append_drop, hstart, ← ih] at hparts
    rw [cut, dif_neg h, renderAll, hparts]
    cases render expandSet n (sets.take size) with
    | error g => rfl
    | ok c =>
      cases renderAll expandSet (cut size (n + size) (sets.drop size)) with
      | error g => rfl
      | ok cs => rfl

end Chunk

/-- Whether the sets are cut into chunks for the workers. -/
def BatchOptions.usesWorkers (options : BatchOptions) (sets : List (List Value)) : Bool :=
  options.parallel && decide (options.batchSize ≤ sets.length)

namespace BatchResult

/-- The result when the workers' chunks have been collected. -/
def ofChunks (options : BatchOptions) (sets : List (List Value)) (chunks : List Chunk) :
    BatchResult :=
  ⟨(Chunk.join chunks).outputs, (Chunk.join chunks).errors, sets.length, options.batchSize,
    options.usesWorkers sets, chunks.map (·.outputs.length)⟩

/-- What the result of a batch says about its sets. -/
structure Complete (expandSet : List Value → Except Failure Text) (sets : List (List Value))
    (r : BatchResult) : Prop where
  outputs : r.outputs = outputsOf expandSet sets
  errors : r.errors = errorsFrom expandSet 0 sets
  setCount : r.setCount = sets.length
  progress : r.progress.sum = sets.length

theorem complete_ofChunks {expandSet : List Value → Except Failure Text} {options : BatchOptions}
    {sets : List (List Value)} {chunks : List Chunk}
    (h : Chunk.join chunks = ⟨outputsOf expandSet sets, errorsFrom expandSet 0 sets⟩) :
    (ofChunks options sets chunks).Complete expandSet sets where
  outputs := by rw [ofChunks, h]
  errors := by rw [ofChunks, h]
  setCount := rfl
  progress := by
    calc (chunks.map (·.outputs.length)).sum
        = (Chunk.join chunks).outputs.length := List.length_flatMap.symm
      _ = sets.length := by rw [h, outputsOf, List.length_map]

end BatchResult

/-- How a batch ends: with the first fault, or without one and with a complete result. -/
inductive BatchEnd (expandSet : List Value → Except Failure Text) (sets : List (List Value)) :
    Except Fault BatchResult → Prop where
  | returned {r : BatchResult} (hfirst : firstFault? expandSet sets = none)
      (h : r.Complete expandSet sets) : BatchEnd expandSet sets (.ok r)
  | raised {g : Fault} (hfirst : firstFault? expandSet sets = some g) :
      BatchEnd expandSet sets (.error g)

section

variable {expandSet : List Value → Except Failure Text} {options : BatchOptions}
  {sets : List (List Value)}

theorem batchEnd_ofChunks {collected : Except Fault (List Chunk)}
    (h : Chunk.join <$> collected = Chunk.render expandSet 0 sets) :
    BatchEnd expandSet sets (BatchResult.ofChunks options sets <$> collected) := by
  rw [Chunk.render_eq] at h
  cases hfirst : firstFault? expandSet sets with
  | some g =>
    rw [hfirst] at h
    cases collected with
    | ok cs => cases h
    | error g' =>
      cases h
      exact .raised hfirst
  | none =>
    rw [hfirst] at h
    cases collected with
    | ok cs =>
      injection h with h
      exact .returned hfirst (BatchResult.complete_ofChunks h)
    | error g' => cases h

theorem renderBatch_of_workers (hsize : options.batchSize ≠ 0) (hworkers : 1 ≤ options.workers)
    (h : options.usesWorkers sets = true) :
    renderBatch expandSet options sets =
      BatchResult.ofChunks options sets <$>
        Chunk.renderAll expandSet (Chunk.cut options.batchSize.toNat 0 sets) := by
  have hbounds : ¬(options.workers ≤ 0 ∨ options.batchSize = 0) := by omega
  have hparallel : (options.parallel && decide (options.batchSize ≤ sets.length)) = true := h
  unfold renderBatch
  simp only [hparallel, if_true, if_neg hbounds]
  cases Chunk.renderAll expandSet (Chunk.cut options.batchSize.toNat 0 sets) with
  | error g => rfl
  | ok cs =>
    show _ = Except.ok (BatchResult.ofChunks options sets cs)
    rw [BatchResult.ofChunks, h]
    rfl

theorem batchEnd_renderBatch_of_sequential (h : options.usesWorkers sets = false) :
    BatchEnd expandSet sets (renderBatch expandSet options sets) := by
  have hparallel : (options.parallel && decide (options.batchSize ≤ sets.length)) = false := h
  unfold renderBatch
  simp only [hparallel, Bool.false_eq_true, if_false, Chunk.render_eq]
  cases hfirst : firstFault? expandSet sets with
  | some g => exact .raised hfirst
  | none =>
    refine .returned hfirst ⟨?_, ?_, rfl, ?_⟩
    · simp
    · simp
    · simp only
      split
      · rename_i hzero
        exact hzero.symm
      · simp

theorem batchEnd_renderBatch (hsize : 1 ≤ options.batchSize) (hworkers : 1 ≤ options.workers) :
    BatchEnd expandSet sets (renderBatch expandSet options sets) := by
  cases h : options.usesWorkers sets with
  | true =>
    rw [renderBatch_of_workers (by omega) hworkers h]
    exact batchEnd_ofChunks (Chunk.join_renderAll_cut (by omega) 0 sets)
  | false => exact batchEnd_renderBatch_of_sequential h

end

end BraceTemplate
