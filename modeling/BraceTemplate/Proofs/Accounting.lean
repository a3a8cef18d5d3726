import BraceTemplate.Proofs.Rendering

/-!
# BraceTemplate.Proofs.Accounting

The books of a batch. The numbers of successes and errors are worked out from the sets and the list
of errors, not from the outputs; they agree with the outputs because every set that is rendered
leaves an output or an error under its own number (`BatchResult.Complete.accounts`). A negative
chunk size gives the workers no set at all: the result is empty, and it still counts every set as a
success. So a result accounts for its sets unless workers are given a negative size
(`renderBatch_accounts`).
-/

namespace BraceTemplate

/-- One output for each of `n` sets, and counts and errors that agree with the outputs. -/
structure BatchResult.Accounts (r : BatchResult) (n : Nat) : Prop where
  outputs : r.outputs.length = n
  counts : r.successCount + r.errorCount = n
  successes : r.successCount = r.outputs.countP Option.isSome
  increasing : (r.errors.map (·.1)).Pairwise (· < ·)
  /-- The numbers of the errors are the positions without an output. -/
  positions : ∀ i, i ∈ r.errors.map (·.1) ↔ r.outputs[i]? = some none

section

variable {expandSet : List Value → Except Failure Text} {options : BatchOptions}
  {sets : List (List Value)}

theorem Failure.isSome_toOption {r : Except Failure Text} (h : fault? r = none) :
    r.toOption.isSome = (error? r).isNone := by
  rcases r with (e | g) | t
  · rfl
  · cases h
  · rfl

/-- The numbers of the errors are some of the numbers of the sets, in their order. -/
theorem errorsFrom_numbers_sublist (n : Nat) (sets : List (List Value)) :
    ((errorsFrom expandSet n sets).map (·.1)).Sublist (List.range' n sets.length) := by
  induction sets generalizing n with
  | nil => exact .slnil
  | cons set sets ih =>
    rw [errorsFrom_cons, List.map_append, List.length_cons, List.range'_succ]
    cases Failure.error? (expandSet set) with
    | none => exact (ih (n + 1)).cons n
    | some e => exact (ih (n + 1)).cons_cons n

theorem mem_errorsFrom_numbers_iff (hfirst : firstFault? expandSet sets = none) (i : Nat) :
    i ∈ (errorsFrom expandSet 0 sets).map (·.1) ↔ (outputsOf expandSet sets)[i]? = some none := by
  have hset : ∀ set ∈ sets, (∃ e, Failure.error? (expandSet set) = some e) ↔
      (expandSet set).toOption = none := by
    intro set hmem
    have hsome := Failure.isSome_toOption (firstFault?_eq_none_iff.1 hfirst set hmem)
    rw [← Option.isSome_iff_exists, ← Option.isNone_iff_eq_none, ← Option.not_isSome, hsome,
      Option.not_isNone]
  constructor
  · intro h
    obtain ⟨⟨j, e⟩, hmem, rfl⟩ := List.mem_map.1 h
    obtain ⟨⟨set, j'⟩, hset', he⟩ := List.mem_filterMap.1 hmem
    obtain ⟨e', herror, heq⟩ := Option.map_eq_some_iff.1 he
    cases heq
    have hat := List.mem_zipIdx_iff_getElem?.1 hset'
    have hnone := (hset set (List.mem_of_getElem? hat)).1 ⟨e, herror⟩
    rw [outputsOf, List.getElem?_map, hat, Option.map_some, hnone]
  · intro h
    rw [outputsOf, List.getElem?_map] at h
    obtain ⟨set, hat, hnone⟩ := Option.map_eq_some_iff.1 h
    obtain ⟨e, herror⟩ := (hset set (List.mem_of_getElem? hat)).2 hnone
    refine List.mem_map.2 ⟨(i, e), ?_, rfl⟩
    refine List.mem_filterMap.2 ⟨(set, i), List.mem_zipIdx_iff_getElem?.2 hat, ?_⟩
    simp only [herror, Option.map_some]

/-- Every set is counted once, by induction on the sets. -/
theorem countP_outputsOf_add_length_errorsFrom (hfirst : firstFault? expandSet sets = none)
    (n : Nat) :
    (outputsOf expandSet sets).countP Option.isSome + (errorsFrom expandSet n sets).length =
      sets.length := by
  induction sets generalizing n with
  | nil => rfl
  | cons set sets ih =>
    have hset := firstFault?_eq_none_iff.1 hfirst set List.mem_cons_self
    rw [firstFault?_cons_of_none hset] at hfirst
    have hsome := Failure.isSome_toOption hset
    rw [outputsOf_cons, errorsFrom_cons, List.countP_cons, hsome, List.length_append,
      List.length_cons, ← ih hfirst (n + 1)]
    cases Failure.error? (expandSet set) with
    | none => simp; omega
    | some e => simp; omega

theorem BatchResult.Complete.accounts {r : BatchResult} (hr : r.Complete expandSet sets)
    (hfirst : firstFault? expandSet sets = none) : r.Accounts sets.length := by
  have hcount := countP_outputsOf_add_length_errorsFrom hfirst 0
  rw [← hr.outputs, ← hr.errors] at hcount
  refine ⟨?_, ?_, ?_, ?_, ?_⟩
  · rw [hr.outputs, outputsOf, List.length_map]
  · rw [successCount, errorCount, hr.setCount]
    omega
  · rw [successCount, hr.setCount]
    omega
  · rw [hr.errors]
    exact (List.pairwise_lt_range' (s := 0) (n := sets.length)).sublist
      (errorsFrom_numbers_sublist 0 sets)
  · rw [hr.errors, hr.outputs]
    exact mem_errorsFrom_numbers_iff hfirst

theorem accounts_of_batchEnd {r : BatchResult} (h : BatchEnd expandSet sets (.ok r)) :
    r.Accounts sets.length := by
  cases h with
  | returned hfirst hr => exact hr.accounts hfirst

/-- A size that allows no chunk leaves the workers nothing to do. -/
theorem Chunk.cut_zero (start : Nat) (sets : List (List Value)) : cut 0 start sets = [] := by
  rw [cut, dif_pos (.inl rfl)]

theorem bounds_of_renderBatch {r : BatchResult} (h : renderBatch expandSet options sets = .ok r)
    (hworkers : options.usesWorkers sets = true) :
    1 ≤ options.workers ∧ options.batchSize ≠ 0 := by
  have hparallel : (options.parallel && decide (options.batchSize ≤ sets.length)) = true := hworkers
  unfold renderBatch at h
  simp only [hparallel, if_true] at h
  split at h
  · cases h
  · omega

theorem accounts_of_renderBatch {r : BatchResult} (h : renderBatch expandSet options sets = .ok r)
    (hsize : options.parallel = true → 0 ≤ options.batchSize) : r.Accounts sets.length := by
  cases hworkers : options.usesWorkers sets with
  | true =>
    obtain ⟨hpositive, hne⟩ := bounds_of_renderBatch h hworkers
    have hparallel : options.parallel = true := by
      rw [BatchOptions.usesWorkers, Bool.and_eq_true] at hworkers
      exact hworkers.1
    have hatLeast := hsize hparallel
    have hend : BatchEnd expandSet sets (renderBatch expandSet options sets) :=
      batchEnd_renderBatch (by omega) hpositive
    exact accounts_of_batchEnd (h ▸ hend)
  | false => exact accounts_of_batchEnd (h ▸ batchEnd_renderBatch_of_sequential hworkers)

/-- A negative size is never above the number of sets, so that the workers are used, and they are
given nothing. -/
theorem renderBatch_of_negative {r : BatchResult} (h : renderBatch expandSet options sets = .ok r)
    (hparallel : options.parallel = true) (hsize : options.batchSize < 0) :
    r = BatchResult.ofChunks options sets [] := by
  have hworkers : options.usesWorkers sets = true := by
    rw [BatchOptions.usesWorkers, hparallel, Bool.true_and, decide_eq_true_iff]
    omega
  obtain ⟨hpositive, hne⟩ := bounds_of_renderBatch h hworkers
  rw [renderBatch_of_workers hne hpositive hworkers, Int.toNat_of_nonpos (by omega),
    Chunk.cut_zero] at h
  exact (Except.ok.inj h).symm

end

/-- Whatever the sets expand to and whatever the size and the workers are: a result accounts for
every set, unless it is that of workers with a negative size, which is empty and counts every set
as a success. -/
theorem renderBatch_accounts {expandSet : List Value → Except Failure Text}
    {options : BatchOptions} {sets : List (List Value)} {r : BatchResult}
    (h : renderBatch expandSet options sets = .ok r) :
    if options.parallel = true ∧ options.batchSize < 0 then
      r.outputs = [] ∧ r.errors = [] ∧ r.successCount = sets.length
    else r.Accounts sets.length := by
  split
  · rename_i hnegative
    rw [renderBatch_of_negative h hnegative.1 hnegative.2]
    exact ⟨rfl, rfl, Int.sub_zero _⟩
  · rename_i hnot
    exact accounts_of_renderBatch h fun hparallel => by
      by_contra hlt
      exact hnot ⟨hparallel, by omega⟩

/-- Three sets in two chunks, with an error in each. -/
theorem renderBatch_accounts_two_errors :
    let expandSet := expand {} ⟨0, some 0⟩ "\x7b[\x7b\x7d]\x7d".toText
    let sets := [[.text "pea".toText, .text ['x']], [.text "hamburger".toText, .int 4],
      [.text "pea".toText, .text ['y']]]
    let r : BatchResult :=
      ⟨[none, some "urger".toText, none],
        [(0, .notIntegerReference ['x']), (2, .notIntegerReference ['y'])], 3, 2, true, [2, 1]⟩
    renderBatch expandSet ⟨2, 1, true⟩ sets = .ok r ∧ r.Accounts 3 := by
  intro expandSet sets r
  have h : renderBatch expandSet ⟨2, 1, true⟩ sets = .ok r := by decide +kernel
  exact ⟨h, renderBatch_accounts h⟩

/-- Two sets that both have a text, and a negative size: no output, and two successes. -/
theorem renderBatch_negative_size :
    ∃ r, renderBatch (expand {} ⟨0, some 0⟩ "\x7b\x7d".toText) ⟨-1, 4, true⟩
        [[.text ['a']], [.text ['b']]] = .ok r ∧
      r.outputs = [] ∧ r.successCount = 2 ∧ ¬ r.Accounts 2 := by
  refine ⟨⟨[], [], 2, -1, true, []⟩, by decide +kernel, rfl, rfl, ?_⟩
  intro h
  cases h.outputs

end BraceTemplate
