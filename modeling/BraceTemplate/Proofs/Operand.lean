import BraceTemplate.Proofs.Grammar
import Mathlib.Data.List.TakeWhile

/-!
# BraceTemplate.Proofs.Operand

Reading what stands between brackets and parentheses: runs of a class, operands, second bounds,
escaped text, groups and zones. Each reader gives back just the texts of its part of the grammar.
-/

namespace BraceTemplate

namespace Directive

/-! ## Runs, operands and bounds -/

theorem readRun?_eq_some_iff {p : CodePoint → Bool} {t w rest : Text} :
    readRun? p t = some (w, rest) ↔
      IsRun p w ∧ (∀ c ∈ rest.head?, p c = false) ∧ t = w ++ rest := by
  unfold readRun?
  constructor
  · intro h
    split at h
    · cases h
    · rename_i hne
      cases h
      refine ⟨⟨by simpa using hne, fun c hc => List.mem_takeWhile_imp hc⟩,
        Text.head?_dropWhile_eq_false t, List.takeWhile_append_dropWhile.symm⟩
  · rintro ⟨⟨hne, hw⟩, hr, rfl⟩
    rw [Text.takeWhile_append_of_stop hw hr, Text.dropWhile_append_of_stop hw hr]
    simp [hne]

theorem readRun?_eq_none_of_head {p : CodePoint → Bool} {c : CodePoint} {t : Text}
    (h : p c = false) :
    readRun? p (c :: t) = none := by
  simp [readRun?, h]

theorem readIndirect?_eq_some_iff {t w rest : Text} :
    readIndirect? t = some (w, rest) ↔ IsIndirect w ∧ t = w ++ rest := by
  constructor
  · intro h
    refine ⟨?_, (append_of_readIndirect? h).1.symm⟩
    unfold readIndirect? at h
    split at h
    · split at h
      · cases h
        exact ⟨_, fun c hc => List.mem_takeWhile_imp hc, rfl⟩
      · cases h
    · cases h
  · rintro ⟨⟨digits, hd, rfl⟩, rfl⟩
    have hstop : ∀ c ∈ (.char '\x7d' :: rest).head?, Text.isDecimal c = false := by
      intro c hc
      cases hc
      decide
    simp only [List.cons_append, List.append_assoc, List.nil_append, readIndirect?,
      Text.takeWhile_append_of_stop hd hstop, Text.dropWhile_append_of_stop hd hstop]

theorem readOperand?_append {p : CodePoint → Bool} (hbrace : p '\x7b' = false) {w rest : Text}
    (hw : IsOperand p w) (hr : ∀ c ∈ rest.head?, p c = false) :
    readOperand? p (w ++ rest) = some (w, rest) := by
  unfold readOperand?
  cases hw with
  | inl hrun => rw [readRun?_eq_some_iff.2 ⟨hrun, hr, rfl⟩]
  | inr hind =>
    have hnone : readRun? p (w ++ rest) = none := by
      obtain ⟨digits, _, rfl⟩ := hind
      exact readRun?_eq_none_of_head hbrace
    rw [hnone]
    exact readIndirect?_eq_some_iff.2 ⟨hind, rfl⟩

theorem isOperand_of_readOperand? {p : CodePoint → Bool} {t w rest : Text}
    (h : readOperand? p t = some (w, rest)) : IsOperand p w ∧ t = w ++ rest := by
  refine ⟨?_, (append_of_readOperand? h).1.symm⟩
  unfold readOperand? at h
  split at h
  · rename_i hr
    cases h
    exact .inl (readRun?_eq_some_iff.1 hr).1
  · exact .inr (readIndirect?_eq_some_iff.1 h).1

theorem readBound?_append {w rest : Text} (hw : IsBound w)
    (hr : ∀ c ∈ rest.head?, Text.isDecimal c = false) :
    readBound? (w ++ rest) = some (w, rest) := by
  cases hw with
  | inl hop =>
    have hminus : ∀ t, w ++ rest = .char '-' :: t → False := by
      intro t ht
      cases hop with
      | inl hrun =>
        obtain ⟨c, u, rfl⟩ := List.exists_cons_of_ne_nil hrun.1
        cases ht
        exact absurd (hrun.2 '-' (by simp)) (by decide)
      | inr hind =>
        obtain ⟨digits, _, rfl⟩ := hind
        cases ht
    rw [readBound?]
    · exact readOperand?_append (by decide) hop hr
    · exact hminus
  | inr hneg =>
    obtain ⟨digits, hrun, rfl⟩ := hneg
    simp only [List.cons_append, readBound?, readRun?_eq_some_iff.2 ⟨hrun, hr, rfl⟩]

theorem isBound_of_readBound? {t w rest : Text} (h : readBound? t = some (w, rest)) :
    IsBound w ∧ t = w ++ rest := by
  refine ⟨?_, (append_of_readBound? h).symm⟩
  unfold readBound? at h
  split at h
  · split at h
    · rename_i hr
      cases h
      exact .inr ⟨_, (readRun?_eq_some_iff.1 hr).1, rfl⟩
    · cases h
  · exact .inl (isOperand_of_readOperand? h).1

/-! ## Escaped text and groups -/

theorem readEscaped?_append {stop : CodePoint} (hs : stop ≠ '\\') {w : Text} (hw : IsEscaped stop w)
    (rest : Text) : readEscaped? stop (w ++ stop :: rest) = some (w, rest) := by
  induction hw with
  | nil =>
    cases rest with
    | nil => simp [readEscaped?, hs]
    | cons d rest => simp [readEscaped?, hs]
  | @plain c w hc hb hw ih =>
    obtain ⟨d, t, ht⟩ : ∃ d t, w ++ stop :: rest = d :: t := by
      cases w with
      | nil => exact ⟨_, _, rfl⟩
      | cons d w => exact ⟨_, _, rfl⟩
    rw [ht] at ih
    rw [List.cons_append, ht]
    simp [readEscaped?, hc, hb, ih]
  | @pair d w hd hw ih => simp [readEscaped?, hd, ih]

theorem isEscaped_of_readEscaped? {stop : CodePoint} {t w rest : Text}
    (h : readEscaped? stop t = some (w, rest)) : IsEscaped stop w ∧ t = w ++ stop :: rest := by
  refine ⟨?_, (append_of_readEscaped? h).symm⟩
  fun_induction readEscaped? stop t generalizing w rest with
  | case1 => cases h
  | case2 c hc =>
    cases h
    exact .nil
  | case3 => cases h
  | case4 => cases h
  | case5 d t hd w' rest' hr ih =>
    cases h
    exact .pair hd (ih hr)
  | case6 => cases h
  | case7 =>
    cases h
    exact .nil
  | case8 c d t hb hc w' rest' hr ih =>
    cases h
    exact .plain hc hb (ih hr)
  | case9 => cases h

theorem readGroup?_eq_some_iff {t w rest : Text} :
    readGroup? t = some (w, rest) ↔ .char ']' ∉ w ∧ t = w ++ .char ']' :: rest := by
  unfold readGroup?
  constructor
  · intro h
    refine ⟨?_, (append_of_readGroup? h).symm⟩
    split at h
    · cases h
      intro hmem
      simpa using List.mem_takeWhile_imp hmem
    · cases h
  · rintro ⟨hw, rfl⟩
    have hin : ∀ c ∈ w, decide (c ≠ ']') = true := by
      intro c hc
      simp only [decide_eq_true_eq]
      rintro rfl
      exact hw hc
    have hstop : ∀ c ∈ (.char ']' :: rest).head?, decide (c ≠ .char ']') = false := by
      intro c hc
      cases hc
      decide
    simp only [Text.takeWhile_append_of_stop hin hstop, Text.dropWhile_append_of_stop hin hstop]

theorem readZone?_eq_some_iff {t zone rest : Text} :
    readZone? t = some (zone, rest) ↔
      IsOperand isZoneChar zone ∧ t = .char '[' :: (zone ++ .char ']' :: rest) := by
  constructor
  · intro h
    unfold readZone? at h
    split at h
    · split at h
      · rename_i hop
        cases h
        obtain ⟨hz, rfl⟩ := isOperand_of_readOperand? hop
        exact ⟨hz, rfl⟩
      · cases h
    · cases h
  · rintro ⟨hz, rfl⟩
    have hop : readOperand? isZoneChar (zone ++ .char ']' :: rest) =
        some (zone, .char ']' :: rest) := by
      refine readOperand?_append (by decide) hz ?_
      intro c hc
      cases hc
      decide
    simp only [readZone?, hop]

end Directive

end BraceTemplate
