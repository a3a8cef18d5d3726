import BraceTemplate.Codec.Utf16
import Mathlib.Data.List.Basic

/-!
# BraceTemplate.Proofs.Utf16

Code units of 16 bits. Where the pairs of surrogates in a text are joined, the text stays as it is
exactly if it has no such pair (`joinPairs_eq_self_iff`).
-/

namespace BraceTemplate.Codec.Utf16

theorem lt_of_mem_encodeChar {c : CodePoint} {n : Nat} (h : n ∈ encodeChar c) :
    n < 65536 := by
  have hcode := c.toNat_lt
  simp only [encodeChar] at h
  split at h
  · cases List.mem_singleton.1 h
    assumption
  · simp only [List.mem_cons, List.not_mem_nil, or_false] at h
    omega

/-- A high surrogate with a low one directly behind it stands in the text. -/
inductive HasPair : Text → Prop where
  | head {high low : Fin 2048} {t : Text} : high.val < 0x400 → 0x400 ≤ low.val →
      HasPair (.surrogate high :: .surrogate low :: t)
  | tail {c : CodePoint} {t : Text} : HasPair t → HasPair (c :: t)

theorem length_joinPairs_le (t : Text) : (joinPairs t).length ≤ t.length := by
  fun_induction joinPairs t with
  | case1 high low t _ ih =>
    simp only [List.length_cons]
    omega
  | case2 high low t _ ih => exact Nat.succ_le_succ ih
  | case3 c t _ ih => exact Nat.succ_le_succ ih
  | case4 => exact Nat.le_refl 0

theorem joinPairs_eq_self_iff {t : Text} : joinPairs t = t ↔ ¬ HasPair t := by
  fun_induction joinPairs t with
  | case1 high low t hpair ih =>
    have hshort := length_joinPairs_le t
    refine iff_of_false (fun h => ?_) (not_not.2 (.head hpair.1 hpair.2))
    have hlength := congrArg List.length h
    simp only [List.length_cons] at hlength
    omega
  | case2 high low t hpair ih =>
    rw [List.cons_inj_right, ih, not_iff_not]
    refine ⟨.tail, fun h => ?_⟩
    cases h with
    | head hhigh hlow => exact absurd ⟨hhigh, hlow⟩ hpair
    | tail h => exact h
  | case3 c t hpair ih =>
    rw [List.cons_inj_right, ih, not_iff_not]
    refine ⟨.tail, fun h => ?_⟩
    cases h with
    | head => exact (hpair _ _ _ rfl rfl).elim
    | tail h => exact h
  | case4 => exact iff_of_true rfl nofun

end BraceTemplate.Codec.Utf16
