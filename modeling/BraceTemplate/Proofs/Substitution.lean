import BraceTemplate.Proofs.Variables

/-!
# BraceTemplate.Proofs.Substitution

Variables in nested values. What comes of a value when nothing is refused does not depend on
strictness (`replaced`); strictness only decides which variables are refused. A substitution
returns if no variable of a text that it looks at is refused, and then it returns that value
(`substitute_eq_ok_iff`). So the strict and the lenient substitution fail for the variables that
they should, and agree wherever both return (`strict_and_lenient`).
-/

namespace BraceTemplate.Environment

/-- A variable of a text that is not the value of a skipped key, or anywhere inside one. Keys
themselves are not looked at. -/
inductive Occurs (skipped : List Text) (x : Variable) : Value → Prop where
  | text {t : Text} {ps : List Piece} (h : Cut t ps) (hx : .variable x ∈ ps) :
      Occurs skipped x (.text t)
  | item {v : Value} {items : List Value} (hv : v ∈ items) (h : Occurs skipped x v) :
      Occurs skipped x (.list items)
  | entry {k v : Value} {entries : List (Value × Value)} (hv : (k, v) ∈ entries)
      (hk : ∀ name ∈ skipped, k ≠ .text name) (h : Occurs skipped x v) :
      Occurs skipped x (.dict entries)

/-- A text with its variables replaced; a text that is one variable, and changes, takes a type. -/
def replacedText (env : Environment) (t : Text) : Value :=
  let r := (pieces t).flatMap (Piece.replaced env)
  if isOneVariable (pieces t) && r ≠ t then typed r else .text r

mutual
/-- A value with the variables in all its texts replaced. -/
def replaced (env : Environment) (skipped : List Text) : Value → Value
  | .text t => replacedText env t
  | .list items => .list (replacedItems env skipped items)
  | .dict entries => .dict (replacedEntries env skipped entries)
  | v => v

def replacedItems (env : Environment) (skipped : List Text) : List Value → List Value
  | [] => []
  | v :: vs => replaced env skipped v :: replacedItems env skipped vs

def replacedEntries (env : Environment) (skipped : List Text) :
    List (Value × Value) → List (Value × Value)
  | [] => []
  | (k, v) :: es =>
    (k, if isSkipped skipped k then v else replaced env skipped v) ::
      replacedEntries env skipped es
end

section

variable {env : Environment} {strict : Bool} {skipped : List Text} {x : Variable}

theorem isSkipped_eq_true_iff {k : Value} :
    isSkipped skipped k = true ↔ ∃ name ∈ skipped, k = .text name := by
  cases k with
  | text t => simp [isSkipped]
  | _ => simp [isSkipped]

theorem isSkipped_eq_false_iff {k : Value} :
    isSkipped skipped k = false ↔ ∀ name ∈ skipped, k ≠ .text name := by
  rw [← Bool.not_eq_true, isSkipped_eq_true_iff]
  simp

theorem occurs_text_iff {t : Text} : Occurs skipped x (.text t) ↔ .variable x ∈ pieces t := by
  constructor
  · rintro (⟨h, hx⟩ | _ | _)
    exact h.eq_pieces ▸ hx
  · exact fun hx => .text (cut_pieces t) hx

theorem occurs_list_iff {items : List Value} :
    Occurs skipped x (.list items) ↔ ∃ v ∈ items, Occurs skipped x v := by
  constructor
  · rintro (_ | ⟨hv, h⟩ | _)
    exact ⟨_, hv, h⟩
  · rintro ⟨v, hv, h⟩
    exact .item hv h

theorem occurs_dict_iff {entries : List (Value × Value)} :
    Occurs skipped x (.dict entries) ↔
      ∃ e ∈ entries, isSkipped skipped e.1 = false ∧ Occurs skipped x e.2 := by
  constructor
  · rintro (_ | _ | ⟨hv, hk, h⟩)
    exact ⟨_, hv, isSkipped_eq_false_iff.2 hk, h⟩
  · rintro ⟨e, he, hk, h⟩
    exact .entry he (isSkipped_eq_false_iff.1 hk) h

theorem substituteText_eq_ok_iff {t : Text} {w : Value} :
    substituteText env strict t = .ok w ↔
      (∀ x, .variable x ∈ pieces t → ¬ Refused env strict x) ∧ w = replacedText env t := by
  rw [substituteText]
  cases h : substitutePieces env strict (pieces t) with
  | error e =>
    refine iff_of_false (by simp) fun hall => ?_
    rw [substitutePieces_eq_ok_iff.2 ⟨hall.1, rfl⟩] at h
    cases h
  | ok r =>
    obtain ⟨hall, rfl⟩ := substitutePieces_eq_ok_iff.1 h
    simp only [replacedText, Except.ok.injEq, eq_comm (a := w), and_iff_right hall]

theorem substituteItems_cons_eq_ok_iff {v : Value} {vs ws : List Value} :
    substituteItems env strict skipped (v :: vs) = .ok ws ↔
      ∃ w rest, substitute env strict skipped v = .ok w ∧
        substituteItems env strict skipped vs = .ok rest ∧ ws = w :: rest := by
  rw [substituteItems]
  cases substitute env strict skipped v with
  | error e => simp
  | ok w =>
    cases substituteItems env strict skipped vs with
    | error e => simp
    | ok rest => simp [eq_comm]

theorem substituteEntries_cons_eq_ok_iff {k v : Value} {es fs : List (Value × Value)} :
    substituteEntries env strict skipped ((k, v) :: es) = .ok fs ↔
      ∃ w rest, (if isSkipped skipped k then .ok v else substitute env strict skipped v) = .ok w ∧
        substituteEntries env strict skipped es = .ok rest ∧ fs = (k, w) :: rest := by
  rw [substituteEntries]
  cases (if isSkipped skipped k then .ok v else substitute env strict skipped v) with
  | error e => simp
  | ok w =>
    cases substituteEntries env strict skipped es with
    | error e => simp
    | ok rest => simp [eq_comm]

mutual
/-- One case for each kind of value; the lists of items and of entries go along with it. -/
theorem substitute_eq_ok_iff (v w : Value) :
    substitute env strict skipped v = .ok w ↔
      (∀ x, Occurs skipped x v → ¬ Refused env strict x) ∧ w = replaced env skipped v := by
  cases v with
  | text t => simpa only [substitute, occurs_text_iff, replaced] using substituteText_eq_ok_iff
  | list items =>
    simp only [occurs_list_iff, replaced]
    rw [substitute]
    cases h : substituteItems env strict skipped items with
    | error e =>
      refine iff_of_false (by simp) fun hall => ?_
      rw [(substituteItems_eq_ok_iff items _).2 ⟨hall.1, rfl⟩] at h
      cases h
    | ok ws =>
      obtain ⟨hall, rfl⟩ := (substituteItems_eq_ok_iff items ws).1 h
      simp only [Except.ok.injEq, eq_comm (a := w), and_iff_right hall]
  | dict entries =>
    simp only [occurs_dict_iff, replaced]
    rw [substitute]
    cases h : substituteEntries env strict skipped entries with
    | error e =>
      refine iff_of_false (by simp) fun hall => ?_
      rw [(substituteEntries_eq_ok_iff entries _).2 ⟨hall.1, rfl⟩] at h
      cases h
    | ok fs =>
      obtain ⟨hall, rfl⟩ := (substituteEntries_eq_ok_iff entries fs).1 h
      simp only [Except.ok.injEq, eq_comm (a := w), and_iff_right hall]
  | _ =>
    constructor
    · rintro ⟨⟩
      refine ⟨?_, rfl⟩
      rintro x ⟨⟩
    · rintro ⟨-, rfl⟩
      rfl

theorem substituteItems_eq_ok_iff (vs ws : List Value) :
    substituteItems env strict skipped vs = .ok ws ↔
      (∀ x, (∃ v ∈ vs, Occurs skipped x v) → ¬ Refused env strict x) ∧
        ws = replacedItems env skipped vs := by
  cases vs with
  | nil => simp [substituteItems, replacedItems, eq_comm]
  | cons v vs =>
    rw [substituteItems_cons_eq_ok_iff, replacedItems]
    constructor
    · rintro ⟨w, rest, hv, hvs, rfl⟩
      obtain ⟨hall, rfl⟩ := (substitute_eq_ok_iff v w).1 hv
      obtain ⟨hrest, rfl⟩ := (substituteItems_eq_ok_iff vs rest).1 hvs
      refine ⟨fun x hx => ?_, rfl⟩
      obtain ⟨u, hu, hx⟩ := hx
      rcases List.mem_cons.1 hu with rfl | hu
      · exact hall x hx
      · exact hrest x ⟨u, hu, hx⟩
    · rintro ⟨hall, rfl⟩
      refine ⟨_, _, (substitute_eq_ok_iff v _).2 ⟨fun x hx => ?_, rfl⟩,
        (substituteItems_eq_ok_iff vs _).2 ⟨fun x hx => ?_, rfl⟩, rfl⟩
      · exact hall x ⟨v, List.mem_cons_self, hx⟩
      · obtain ⟨u, hu, hx⟩ := hx
        exact hall x ⟨u, List.mem_cons_of_mem v hu, hx⟩

theorem substituteEntries_eq_ok_iff (es fs : List (Value × Value)) :
    substituteEntries env strict skipped es = .ok fs ↔
      (∀ x, (∃ e ∈ es, isSkipped skipped e.1 = false ∧ Occurs skipped x e.2) →
        ¬ Refused env strict x) ∧ fs = replacedEntries env skipped es := by
  match es with
  | [] =>
    rw [substituteEntries, replacedEntries, Except.ok.injEq, eq_comm]
    simp
  | (k, v) :: es =>
    have hentry : ∀ w, (if isSkipped skipped k then .ok v else substitute env strict skipped v) =
        .ok w ↔ (isSkipped skipped k = false → ∀ x, Occurs skipped x v → ¬ Refused env strict x) ∧
          w = if isSkipped skipped k then v else replaced env skipped v := by
      intro w
      cases isSkipped skipped k with
      | true => simp [eq_comm]
      | false => simpa using substitute_eq_ok_iff v w
    rw [substituteEntries_cons_eq_ok_iff, replacedEntries]
    constructor
    · rintro ⟨w, rest, hv, hes, rfl⟩
      obtain ⟨hall, rfl⟩ := (hentry w).1 hv
      obtain ⟨hrest, rfl⟩ := (substituteEntries_eq_ok_iff es rest).1 hes
      refine ⟨fun x hx => ?_, rfl⟩
      obtain ⟨e, he, hk, hx⟩ := hx
      rcases List.mem_cons.1 he with rfl | he
      · exact hall hk x hx
      · exact hrest x ⟨e, he, hk, hx⟩
    · rintro ⟨hall, rfl⟩
      refine ⟨_, _, (hentry _).2 ⟨fun hk x hx => ?_, rfl⟩,
        (substituteEntries_eq_ok_iff es _).2 ⟨fun x hx => ?_, rfl⟩, rfl⟩
      · exact hall x ⟨(k, v), List.mem_cons_self, hk, hx⟩
      · obtain ⟨e, he, hk, hx⟩ := hx
        exact hall x ⟨e, List.mem_cons_of_mem (k, v) he, hk, hx⟩
end

theorem substitute_eq_error_iff (v : Value) :
    (∃ e, substitute env strict skipped v = .error e) ↔
      ∃ x, Occurs skipped x v ∧ Refused env strict x := by
  have hok : substitute env strict skipped v = .ok (replaced env skipped v) ↔
      (∀ x, Occurs skipped x v → ¬ Refused env strict x) ∧
        replaced env skipped v = replaced env skipped v := substitute_eq_ok_iff v _
  cases h : substitute env strict skipped v with
  | error e =>
    rw [h] at hok
    simpa using hok
  | ok w =>
    obtain ⟨hall, -⟩ := (substitute_eq_ok_iff v w).1 h
    simpa using hall

theorem refused_true_iff : Refused env true x ↔ env.lookup x.name = none := by
  simp [Refused]

theorem refused_false_iff :
    Refused env false x ↔ env.lookup x.name = none ∧ ∃ message, x.fallback = .message message := by
  simp [Refused]

theorem isOneVariable_iff {ps : List Piece} :
    isOneVariable ps = true ↔ ∃ v, ps = [.variable v] := by
  unfold isOneVariable
  split
  · simp
  · rename_i hnot
    simpa using hnot

end

/-- The two ways to substitute. The strict one fails if and only if a variable of a text under no
skipped key is not set, the lenient one if and only if such a variable demands a value; and where
the strict one returns, the lenient one returns the same. A text falls into variables and characters
in just one way, from the left; every variable is replaced by its value, its default or itself, and
what comes of it is not read again, unless it takes a type as the value of the only variable. -/
theorem strict_and_lenient (env : Environment) (skipped : List Text) (v : Value) :
    ((∃ e, substitute env true skipped v = .error e) ↔
      ∃ x, Occurs skipped x v ∧ env.lookup x.name = none) ∧
    ((∃ e, substitute env false skipped v = .error e) ↔
      ∃ x, Occurs skipped x v ∧ env.lookup x.name = none ∧
        ∃ message, x.fallback = .message message) ∧
    (∀ w, substitute env true skipped v = .ok w → substitute env false skipped v = .ok w) ∧
    ∀ (strict : Bool) (t : Text) (w : Value), substitute env strict skipped (.text t) = .ok w →
      ∃ ps, (∀ qs, Cut t qs ↔ qs = ps) ∧ ∃ r, r = ps.flatMap (Piece.replaced env) ∧
        (w = .text r ∧ ((∃ x, ps = [.variable x]) → r = t) ∨
          w = typed r ∧ (∃ x, ps = [.variable x]) ∧ r ≠ t) := by
  refine ⟨?_, ?_, fun w hw => ?_, fun strict t w hw => ?_⟩
  · simp only [substitute_eq_error_iff, refused_true_iff]
  · simp only [substitute_eq_error_iff, refused_false_iff]
  · obtain ⟨hall, rfl⟩ := (substitute_eq_ok_iff v w).1 hw
    exact (substitute_eq_ok_iff v _).2 ⟨fun x hx h => hall x hx h.of_lenient, rfl⟩
  · obtain ⟨-, rfl⟩ := (substitute_eq_ok_iff (.text t) w).1 hw
    refine ⟨pieces t, fun qs => cut_iff, _, rfl, ?_⟩
    rw [replaced, replacedText, ← isOneVariable_iff]
    split
    · rename_i h
      exact .inr ⟨rfl, by simpa using h⟩
    · rename_i h
      exact .inl ⟨rfl, by simpa using h⟩

/-- A variable that is not set, with a default, behind one whose value looks like a variable; and
one that demands a value, under a skipped key. -/
theorem strict_and_lenient_nested :
    let env : Environment := [("A".toText, "$\x7bC\x7d".toText)]
    let skipped := ["template".toText]
    let v : List Value → Value := fun items => .dict
      [(.text "template".toText, .text "$\x7bC:?\x7d".toText),
        (.text "parameters".toText, .list items)]
    (∃ e, substitute env true skipped (v [.text "$\x7bA\x7d$\x7bB:-b\x7d".toText]) = .error e) ∧
      substitute env false skipped (v [.text "$\x7bA\x7d$\x7bB:-b\x7d".toText]) =
        .ok (v [.text "$\x7bC\x7db".toText]) := by
  intro env skipped v
  refine ⟨(strict_and_lenient env skipped _).1.2 ⟨⟨['B'], .default [':', '-'] ['b']⟩, ?_, rfl⟩, rfl⟩
  have hkey : ∀ name ∈ skipped, Value.text "parameters".toText ≠ .text name := by
    simp [skipped]
  exact .entry (.tail _ (.head _)) hkey (.item (.head _) (occurs_text_iff.2 (by decide)))

end BraceTemplate.Environment
