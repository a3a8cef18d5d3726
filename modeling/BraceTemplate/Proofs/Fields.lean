import BraceTemplate.Printf.Format
import BraceTemplate.Proofs.Digits

/-!
# BraceTemplate.Proofs.Fields

Widths and precisions of specifiers. A finished text is padded to a width of any decimal digits
(`pad_eq_ok`); a number is laid out in a field whose width has ASCII digits only
(`readAsciiNumber_eq_ok`). Both have a limit, and all other widths are faults.
-/

namespace BraceTemplate.Printf

/-! ## Finished texts -/

/-- A width that a finished text can be padded to. -/
def IsPaddable (width : Text) : Prop :=
  width.length ≤ Number.maxDigits ∧ Number.digitsValue width ≤ maxWidth

theorem pad_eq_ok {width : Text} (h : IsPaddable width) (left : Bool) (t : Text) :
    pad left width t = .ok (if left then Text.padRight (Number.digitsValue width) t
      else Text.padLeft (Number.digitsValue width) t) := by
  unfold pad
  by_cases hempty : width.isEmpty = true
  · have hnil := List.isEmpty_iff.1 hempty
    simp [hnil, Number.digitsValue, Text.padRight, Text.padLeft]
  · rw [if_neg hempty, Number.readDigits, if_neg (Nat.not_lt.2 h.1)]
    simp only [if_neg (Nat.not_lt.2 h.2)]

theorem pad_eq_fault {width : Text} (h : ¬ IsPaddable width) (left : Bool) (t : Text) :
    ∃ f, pad left width t = .error (.fault f) := by
  unfold pad
  by_cases hempty : width.isEmpty = true
  · rw [List.isEmpty_iff.1 hempty] at h
    exact absurd ⟨by decide, by decide⟩ h
  · rw [if_neg hempty, Number.readDigits]
    by_cases hlength : width.length > Number.maxDigits
    · exact ⟨.tooManyDigits, by rw [if_pos hlength]⟩
    · have hlarge : Number.digitsValue width > maxWidth :=
        Nat.lt_of_not_le fun hvalue => h ⟨Nat.le_of_not_lt hlength, hvalue⟩
      exact ⟨.widthTooLarge, by simp only [if_neg hlength, if_pos hlarge]⟩

/-! ## Numbers -/

/-- ASCII digits of a number within a limit. -/
def IsReadable (limit : Nat) (digits : Text) : Prop :=
  (∀ c ∈ digits, Text.isAsciiDigit c = true) ∧ Number.digitsValue digits ≤ limit

theorem readAsciiNumber_eq_ok {limit : Nat} {digits : Text} (h : IsReadable limit digits) :
    readAsciiNumber limit digits = .ok (Number.digitsValue digits) := by
  have hall : digits.all Text.isAsciiDigit = true := List.all_eq_true.2 h.1
  unfold readAsciiNumber
  rw [hall]
  exact if_neg (Nat.not_lt.2 h.2)

theorem readAsciiNumber_eq_fault {limit : Nat} {digits : Text} (h : ¬ IsReadable limit digits) :
    readAsciiNumber limit digits = .error (.fault .malformedSpecifier) := by
  unfold readAsciiNumber
  by_cases hall : digits.all Text.isAsciiDigit = true
  · have hlarge : Number.digitsValue digits > limit :=
      Nat.lt_of_not_le fun hvalue => h ⟨List.all_eq_true.1 hall, hvalue⟩
    rw [hall]
    exact if_pos hlarge
  · rw [eq_false_of_ne_true hall]
    rfl

theorem digitsValue_zero_cons (t : Text) : Number.digitsValue ('0' :: t) = Number.digitsValue t :=
  rfl

theorem isReadable_dropWhile_iff {limit : Nat} {digits : Text} :
    IsReadable limit (digits.dropWhile (· = '0')) ↔ IsReadable limit digits := by
  induction digits with
  | nil => rfl
  | cons c digits ih =>
    by_cases hc : c = '0'
    · subst hc
      rw [List.dropWhile_cons_of_pos (by decide), ih, IsReadable, IsReadable,
        digitsValue_zero_cons, List.forall_mem_cons]
      exact and_congr_left' (and_iff_right (by decide)).symm
    · rw [List.dropWhile_cons_of_neg (by simpa using hc)]

end BraceTemplate.Printf
