import BraceTemplate.Proofs.Application
import Mathlib.Algebra.Order.Group.Int
import Mathlib.Data.List.TakeDrop
import Mathlib.Tactic.Lift

/-!
# BraceTemplate.Proofs.Slicing

The algebra of the two slices. Both move their bounds into the text, the one to its ends and the
other to its last character. For bounds that are not negative that is what taking and dropping do
by themselves (`sliceText_natCast`, `sliceLengthText_natCast`), and a negative end is one that is
not (`sliceText_neg`). The laws of slices follow from these forms (`slices_algebra`).
-/

namespace BraceTemplate

theorem Text.slice_isInfix (start stop : Nat) (t : Text) : Text.slice start stop t <:+: t :=
  (List.take_prefix _ _).isInfix.trans (List.drop_suffix _ _).isInfix

namespace Operator

/-- Wherever the operands are resolved to two bounds, the operator takes `r` out of `t`. -/
def Takes [Packages] (operator : Reference → Reference → Operator) (t : Text) (i j : Int)
    (r : Text) : Prop :=
  ∀ (ctx : Context) (first second : Reference) (v : Value) (n m k : Nat),
    v.toText = .ok t → (first.resolveInteger ctx).run n = .ok i m →
      (second.resolveInteger ctx).run m = .ok j k →
        ((operator first second).apply ctx v).run n = .ok (.text r) k

theorem takes_of_applyText [Packages] {operator : Reference → Reference → Operator}
    {f : Text → Int → Int → Text}
    (h : ∀ ctx first second v, (operator first second).applyText ctx v = (do
      let text ← Evaluation.ofFault v.toText
      let i ← first.resolveInteger ctx
      let j ← second.resolveInteger ctx
      pure (f text i j))) (t : Text) (i j : Int) : Takes operator t i j (f t i j) := by
  intro ctx first second v n m k htext hfirst hsecond
  refine Evaluation.run_bind_eq_ok_iff.2 ⟨f t i j, k, ?_, rfl⟩
  rw [h]
  refine Evaluation.run_bind_eq_ok_iff.2 ⟨t, n, Evaluation.run_ofFault_eq_ok_iff.2 ⟨htext, rfl⟩, ?_⟩
  refine Evaluation.run_bind_eq_ok_iff.2 ⟨i, m, hfirst, ?_⟩
  exact Evaluation.run_bind_eq_ok_iff.2 ⟨j, k, hsecond, rfl⟩

theorem takes_slice [Packages] (t : Text) (i j : Int) : Takes slice t i j (sliceText t i j) :=
  takes_of_applyText (fun _ _ _ _ => rfl) t i j

theorem takes_sliceLength [Packages] (t : Text) (i n : Int) :
    Takes sliceLength t i n (sliceLengthText t i n) :=
  takes_of_applyText (fun _ _ _ _ => rfl) t i n

/-! ## Bounds that are not negative -/

theorem sliceText_natCast (t : Text) (i j : Nat) : sliceText t i j = (t.drop i).take (j - i) := by
  rcases Nat.lt_or_ge t.length i with hlt | hle
  · have hstart : (max 0 (min (i : Int) t.length)).toNat = t.length := by omega
    simp only [sliceText, Text.slice, hstart, List.drop_of_length_le hlt.le, List.drop_length,
      List.take_nil]
  · have hstart : (max 0 (min (i : Int) t.length)).toNat = i := by omega
    simp only [sliceText, Text.slice, hstart]
    rw [List.take_eq_take_iff, List.length_drop]
    split <;> omega

theorem sliceLengthText_natCast (t : Text) (i n : Nat) :
    sliceLengthText t i n = (t.drop (min i (t.length - 1))).take n := by
  have hstart : (max 0 (min (i : Int) (t.length - 1))).toNat = min i (t.length - 1) := by omega
  simp only [sliceLengthText, Text.slice, hstart]
  rw [List.take_eq_take_iff, List.length_drop]
  omega

/-- A negative end as one that is not negative. -/
theorem sliceText_neg (t : Text) (a : Int) {k : Int} (hk : 1 ≤ k) :
    sliceText t a (-k) = sliceText t a (max 0 (t.length + 1 - k)) := by
  have hneg : -k < 0 := by omega
  have hpos : ¬ max 0 ((t.length : Int) + 1 - k) < 0 := by omega
  have hstop : max 0 ((t.length : Int) + 1 + -k) =
      min (max 0 ((t.length : Int) + 1 - k)) t.length := by omega
  simp only [sliceText, if_pos hneg, if_neg hpos, hstop]

/-- The end of a text counts as -1. -/
theorem sliceText_natCast_neg_one (t : Text) (i : Nat) : sliceText t i (-1) = t.drop i := by
  have hstop : max 0 ((t.length : Int) + 1 - 1) = (t.length : Nat) := by omega
  rw [sliceText_neg t i (by omega), hstop, sliceText_natCast, ← List.length_drop, List.take_length]

theorem sliceText_append_rest (t : Text) {a : Int} (ha : 0 ≤ a) :
    sliceText t 0 a ++ sliceText t a (-1) = t := by
  lift a to Nat using ha
  have hfirst := sliceText_natCast t 0 a
  rw [Int.natCast_zero, List.drop_zero, Nat.sub_zero] at hfirst
  rw [hfirst, sliceText_natCast_neg_one, List.take_append_drop]

/-! ## A length for an end -/

theorem sliceLengthText_eq_sliceText {t : Text} {i n : Nat}
    (h : i < t.length ∨ n = 0 ∨ t.length = 0) :
    sliceLengthText t i n = sliceText t i ((i : Int) + n) := by
  rw [← Int.natCast_add, sliceText_natCast, sliceLengthText_natCast, Nat.add_sub_cancel_left]
  rcases h with hi | rfl | ht
  · rw [Nat.min_eq_left (by omega)]
  · rw [List.take_zero, List.take_zero]
  · rw [List.length_eq_zero_iff.1 ht, List.drop_nil, List.drop_nil]

theorem sliceLengthText_of_length_le {t : Text} (ht : t ≠ []) {i n : Nat} (hi : t.length ≤ i)
    (hn : n ≠ 0) : sliceLengthText t i n = [t.getLast ht] := by
  have hlength := List.length_pos_iff.2 ht
  rw [sliceLengthText_natCast, Nat.min_eq_right (by omega), List.drop_length_sub_one,
    List.take_of_length_le (by rw [List.length_singleton]; omega)]

theorem sliceText_of_length_le {t : Text} {i : Nat} (hi : t.length ≤ i) (j : Nat) :
    sliceText t i j = [] := by
  rw [sliceText_natCast, List.drop_of_length_le hi, List.take_nil]

/-- An end that is as far from the start as a length gives the same, unless there are characters to
take and all of them stand before the start. -/
theorem sliceLengthText_eq_sliceText_iff (t : Text) (i n : Nat) :
    sliceLengthText t i n = sliceText t i ((i : Int) + n) ↔
      i < t.length ∨ n = 0 ∨ t.length = 0 := by
  refine ⟨fun h => ?_, sliceLengthText_eq_sliceText⟩
  by_contra hnot
  have ht : t ≠ [] := List.length_pos_iff.1 (by omega)
  rw [sliceLengthText_of_length_le ht (by omega) (by omega), ← Int.natCast_add,
    sliceText_of_length_le (by omega)] at h
  cases h

/-- The laws of the two slices, for bounds of any size: both operators take a slice of the text,
whatever their bounds are resolved to; a slice up to `a` and the one from `a` to the end are the
text; a negative end is counted back from the end of the text; and a length is an end that is as far
from the start, except that a start behind a text that is not empty is moved to its last
character, which is then what any length takes. -/
theorem slices_algebra [Packages] (t : Text) (a b n k : Int) :
    Takes slice t a b (sliceText t a b) ∧ Takes sliceLength t a n (sliceLengthText t a n) ∧
    sliceText t a b <:+: t ∧ sliceLengthText t a n <:+: t ∧
    (0 ≤ a → sliceText t 0 a ++ sliceText t a (-1) = t) ∧
    (1 ≤ k → sliceText t a (-k) = sliceText t a (max 0 (t.length + 1 - k))) ∧
    (0 ≤ a → 0 ≤ n →
      (sliceLengthText t a n = sliceText t a (a + n) ↔ a < t.length ∨ n = 0 ∨ t.length = 0) ∧
      (¬ (a < t.length ∨ n = 0 ∨ t.length = 0) →
        ∃ c, t.getLast? = some c ∧ sliceLengthText t a n = [c])) := by
  refine ⟨takes_slice t a b, takes_sliceLength t a n, Text.slice_isInfix _ _ t,
    Text.slice_isInfix _ _ t, sliceText_append_rest t, sliceText_neg t a, ?_⟩
  intro ha hn
  lift a to Nat using ha
  lift n to Nat using hn
  refine ⟨by rw [sliceLengthText_eq_sliceText_iff]; omega, fun hnot => ?_⟩
  have ht : t ≠ [] := List.length_pos_iff.1 (by omega)
  exact ⟨t.getLast ht, List.getLast?_eq_some_getLast ht,
    sliceLengthText_of_length_le ht (by omega) (by omega)⟩

/-- An end that is a parameter and counts back, and a start behind the text. -/
theorem slices_algebra_hamburger :
    let ctx : Context := ⟨[.int (-2), .int 9], [], none⟩
    let word := Value.text "hamburger".toText
    ((slice (.literal (some ['4'])) .next).apply ctx word).run 0 = .ok (.text "urge".toText) 1 ∧
      ((sliceLength (.fixed 2) .next).apply ctx word).run 1 = .ok (.text ['r']) 2 ∧
      sliceLengthText "hamburger".toText 9 9 ≠ sliceText "hamburger".toText 9 (9 + 9) := by
  intro ctx word
  obtain ⟨hslice, -⟩ := slices_algebra "hamburger".toText 4 (-2) 0 0
  obtain ⟨-, hlength, -, -, -, -, hlaw⟩ := slices_algebra "hamburger".toText 9 0 9 0
  refine ⟨hslice ctx _ _ word 0 0 1 rfl rfl rfl, hlength ctx _ _ word 1 1 2 rfl rfl rfl, ?_⟩
  rw [ne_eq, (hlaw (by decide) (by decide)).1]
  decide

end Operator

end BraceTemplate
