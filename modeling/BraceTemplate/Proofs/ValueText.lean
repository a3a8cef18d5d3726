import BraceTemplate.Proofs.Digits
import BraceTemplate.Proofs.Faults

/-!
# BraceTemplate.Proofs.ValueText

Which values can be written as text: all in which no integer of more digits than are written stands,
at whatever depth (`Value.toText_eq_error_iff`).
-/

namespace BraceTemplate

/-- More decimal digits than are written. -/
def Number.IsOverlong (i : Int) : Prop := 10 ^ maxDigits ≤ i.natAbs

theorem Number.isOverlong_natCast_iff {n : Nat} : IsOverlong n ↔ 10 ^ maxDigits ≤ n := by
  rw [IsOverlong, Int.natAbs_natCast]

theorem Number.decimalText_eq_error_iff {i : Int} {f : Fault} :
    decimalText i = .error f ↔ f = .tooManyDigits ∧ IsOverlong i := by
  rw [decimalText, IsOverlong, ← Nat.not_lt, ← length_natText_le_iff]
  by_cases h : (natText i.natAbs).length > maxDigits
  · simp [h, eq_comm]
  · simp [h]

namespace Value

/-- The integer stands in the value, at whatever depth. -/
inductive Holds (i : Int) : Value → Prop where
  | int : Holds i (int i)
  | list {items : List Value} {v : Value} : v ∈ items → Holds i v → Holds i (list items)
  | tuple {items : List Value} {v : Value} : v ∈ items → Holds i v → Holds i (tuple items)
  | set {items : List Value} {v : Value} : v ∈ items → Holds i v → Holds i (set items)
  | key {entries : List (Value × Value)} {e : Value × Value} :
      e ∈ entries → Holds i e.1 → Holds i (dict entries)
  | entry {entries : List (Value × Value)} {e : Value × Value} :
      e ∈ entries → Holds i e.2 → Holds i (dict entries)

/-- An integer of more digits than are written stands in the value. -/
def IsOverlong (v : Value) : Prop := ∃ i, v.Holds i ∧ Number.IsOverlong i

theorem isOverlong_int_iff {i : Int} : (int i).IsOverlong ↔ Number.IsOverlong i := by
  constructor
  · rintro ⟨_, ⟨⟩, hi⟩
    exact hi
  · exact fun hi => ⟨i, .int, hi⟩

theorem literals_eq_error {items : List Value} {v : Value} (hv : v ∈ items)
    (h : literal v = .error .tooManyDigits) : literals items = .error .tooManyDigits := by
  induction items with
  | nil => cases hv
  | cons w items ih =>
    rw [literals]
    cases hw : literal w with
    | error f => simp only [List.mem_singleton.1 (among_literal w f hw)]
    | ok t =>
      rcases List.mem_cons.1 hv with rfl | hv
      · rw [h] at hw
        cases hw
      · simp only [ih hv]

theorem entryLiterals_eq_error {entries : List (Value × Value)} {e : Value × Value}
    (he : e ∈ entries)
    (h : literal e.1 = .error .tooManyDigits ∨ literal e.2 = .error .tooManyDigits) :
    entryLiterals entries = .error .tooManyDigits := by
  induction entries with
  | nil => cases he
  | cons w entries ih =>
    rw [entryLiterals]
    cases hkey : literal w.1 with
    | error f => simp only [List.mem_singleton.1 (among_literal w.1 f hkey)]
    | ok kt =>
      cases hentry : literal w.2 with
      | error f => simp only [List.mem_singleton.1 (among_literal w.2 f hentry)]
      | ok vt =>
        rcases List.mem_cons.1 he with rfl | he
        · rcases h with h | h
          · rw [h] at hkey
            cases hkey
          · rw [h] at hentry
            cases hentry
        · simp only [ih he]

theorem Holds.literal_eq_error {v : Value} {i : Int} (h : v.Holds i) (hi : Number.IsOverlong i) :
    literal v = .error .tooManyDigits := by
  induction h with
  | int => exact Number.decimalText_eq_error_iff.2 ⟨rfl, hi⟩
  | list hv _ ih => rw [literal, literals_eq_error hv ih]
  | tuple hv _ ih => rw [literal, literals_eq_error hv ih]
  | set hv _ ih => rw [literal, literals_eq_error hv ih]
  | key he _ ih => rw [literal, entryLiterals_eq_error he (.inl ih)]
  | entry he _ ih => rw [literal, entryLiterals_eq_error he (.inr ih)]

mutual

/-- By recursion on the value and on what it holds. -/
theorem isOverlong_of_literal :
    ∀ {v : Value} {f : Fault}, literal v = .error f → v.IsOverlong
  | int i, f, h => isOverlong_int_iff.2 (Number.decimalText_eq_error_iff.1 h).2
  | list items, f, h => by
    rw [literal] at h
    split at h
    · rename_i hitems
      obtain ⟨v, hv, i, hi, hlong⟩ := isOverlong_of_literals hitems
      exact ⟨i, .list hv hi, hlong⟩
    · cases h
  | tuple items, f, h => by
    rw [literal] at h
    split at h
    · rename_i hitems
      obtain ⟨v, hv, i, hi, hlong⟩ := isOverlong_of_literals hitems
      exact ⟨i, .tuple hv hi, hlong⟩
    · cases h
  | set items, f, h => by
    rw [literal] at h
    split at h
    · rename_i hitems
      obtain ⟨v, hv, i, hi, hlong⟩ := isOverlong_of_literals hitems
      exact ⟨i, .set hv hi, hlong⟩
    · cases h
  | dict entries, f, h => by
    rw [literal] at h
    split at h
    · rename_i hentries
      obtain ⟨e, he, ⟨i, hi, hlong⟩ | ⟨i, hi, hlong⟩⟩ := isOverlong_of_entryLiterals hentries
      · exact ⟨i, .key he hi, hlong⟩
      · exact ⟨i, .entry he hi, hlong⟩
    · cases h

theorem isOverlong_of_literals :
    ∀ {vs : List Value} {f : Fault}, literals vs = .error f → ∃ v ∈ vs, v.IsOverlong
  | v :: vs, f, h => by
    rw [literals] at h
    split at h
    · rename_i hv
      exact ⟨v, List.mem_cons_self, isOverlong_of_literal hv⟩
    · split at h
      · rename_i hvs
        obtain ⟨w, hw, hlong⟩ := isOverlong_of_literals hvs
        exact ⟨w, List.mem_cons_of_mem _ hw, hlong⟩
      · cases h

theorem isOverlong_of_entryLiterals :
    ∀ {es : List (Value × Value)} {f : Fault}, entryLiterals es = .error f →
      ∃ e ∈ es, e.1.IsOverlong ∨ e.2.IsOverlong
  | (k, v) :: es, f, h => by
    rw [entryLiterals] at h
    split at h
    · rename_i hk
      exact ⟨(k, v), List.mem_cons_self, .inl (isOverlong_of_literal hk)⟩
    · split at h
      · rename_i hv
        exact ⟨(k, v), List.mem_cons_self, .inr (isOverlong_of_literal hv)⟩
      · split at h
        · rename_i hes
          obtain ⟨e, he, hlong⟩ := isOverlong_of_entryLiterals hes
          exact ⟨e, List.mem_cons_of_mem _ he, hlong⟩
        · cases h

end

theorem literal_eq_error_iff {v : Value} {f : Fault} :
    literal v = .error f ↔ f = .tooManyDigits ∧ v.IsOverlong := by
  constructor
  · exact fun h => ⟨List.mem_singleton.1 (among_literal v f h), isOverlong_of_literal h⟩
  · rintro ⟨rfl, i, hi, hlong⟩
    exact hi.literal_eq_error hlong

theorem toText_eq_error_iff {v : Value} {f : Fault} :
    v.toText = .error f ↔ f = .tooManyDigits ∧ v.IsOverlong := by
  rw [← literal_eq_error_iff]
  cases v <;> simp [toText, literal]

theorem not_isOverlong_of_toText {v : Value} {t : Text} (h : v.toText = .ok t) :
    ¬ v.IsOverlong := by
  intro hlong
  rw [toText_eq_error_iff.2 ⟨rfl, hlong⟩] at h
  cases h

end Value

end BraceTemplate
