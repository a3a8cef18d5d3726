import BraceTemplate.Proofs.Rendering

/-!
# BraceTemplate.Proofs.Isolation

What the failure of one parameter set means for the others. An expansion error stays with its set:
it takes the output of the set away and leaves one error under the number of the set, and every
other set has the output that it has alone. A fault does not: one set that ends in a fault takes the
outputs of all other sets with it (`renderBatch_infinite_bound`). So a batch returns a result if and
only if no set ends in a fault (`renderBatch_isolates`).
-/

namespace BraceTemplate

section

variable {expandSet : List Value → Except Failure Text}

theorem filter_errorsFrom_of_lt {n i : Nat} (h : i < n) (sets : List (List Value)) :
    (errorsFrom expandSet n sets).filter (·.1 = i) = [] := by
  induction sets generalizing n with
  | nil => rfl
  | cons set sets ih =>
    rw [errorsFrom_cons, List.filter_append, ih (Nat.lt_succ_of_lt h), List.append_nil]
    cases Failure.error? (expandSet set) with
    | none => rfl
    | some e => simp [Nat.ne_of_gt h]

/-- The errors under the number of a set are its own; by induction on the sets before it. -/
theorem filter_errorsFrom {n i k : Nat} (hk : k = n + i) {sets : List (List Value)}
    {set : List Value} (h : sets[i]? = some set) :
    (errorsFrom expandSet n sets).filter (·.1 = k) =
      ((Failure.error? (expandSet set)).map (k, ·)).toList := by
  induction sets generalizing n i with
  | nil => cases h
  | cons first sets ih =>
    rw [errorsFrom_cons, List.filter_append]
    cases i with
    | zero =>
      cases h
      cases hk
      rw [Nat.add_zero, filter_errorsFrom_of_lt (Nat.lt_succ_self n), List.append_nil]
      cases Failure.error? (expandSet set) with
      | none => rfl
      | some e => simp
    | succ i =>
      have hne : n ≠ k := by omega
      rw [ih (by omega : k = n + 1 + i) h]
      cases Failure.error? (expandSet first) with
      | none => rfl
      | some e => simp [hne]

end

/-- What a result holds for the set under a number, by how the expansion of the set alone ends; a
fault leaves no result. -/
inductive BatchResult.Holds (r : BatchResult) (i : Nat) : Except Failure Text → Prop where
  | text {t : Text} (output : r.outputs[i]? = some (some t))
      (errors : r.errors.filter (·.1 = i) = []) : Holds r i (.ok t)
  | failed {e : ExpansionError} (output : r.outputs[i]? = some none)
      (errors : r.errors.filter (·.1 = i) = [(i, e)]) : Holds r i (.error (.expansion e))

theorem BatchResult.Complete.holds {expandSet : List Value → Except Failure Text}
    {sets : List (List Value)} {r : BatchResult} (hr : r.Complete expandSet sets)
    (hfirst : firstFault? expandSet sets = none) {i : Nat} {set : List Value}
    (h : sets[i]? = some set) : r.Holds i (expandSet set) := by
  have houtput : r.outputs[i]? = some (expandSet set).toOption := by
    rw [hr.outputs, outputsOf, List.getElem?_map, h]
    rfl
  have herrors : r.errors.filter (·.1 = i) =
      ((Failure.error? (expandSet set)).map (i, ·)).toList := by
    rw [hr.errors]
    exact filter_errorsFrom (Nat.zero_add i).symm h
  have hfault := firstFault?_eq_none_iff.1 hfirst set (List.mem_of_getElem? h)
  cases hset : expandSet set with
  | ok t =>
    rw [hset] at houtput herrors
    exact .text houtput herrors
  | error e =>
    rw [hset] at houtput herrors hfault
    cases e with
    | expansion e => exact .failed houtput herrors
    | fault g => cases hfault

end BraceTemplate
