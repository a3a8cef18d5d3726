import BraceTemplate.Proofs.Correspondence

/-!
# BraceTemplate.Proofs.Faults

Computations whose failures are known. `Among P` is the property that is carried through a
computation: it ends in a result, in an expansion error with the property `P`, or in an ordinary
fault, which is any but that of an operand that was left out. It is defined for results and for
evaluations, with one lemma for each way to compose them.

Writing a value as text faults only on an integer of too many digits, at whatever depth the integer
stands in the value (`Value.among_toText`).
-/

namespace BraceTemplate

/-! ## Computations whose failures are known -/

/-- Any fault but that of an operand without a text. -/
def Fault.IsOrdinary (g : Fault) : Prop := g ≠ .absentText

instance (g : Fault) : Decidable g.IsOrdinary := inferInstanceAs (Decidable (g ≠ .absentText))

/-- A result, or a fault of the list. -/
def Fault.Among {α : Type} (fs : List Fault) (r : Except Fault α) : Prop :=
  ∀ g, r = .error g → g ∈ fs

namespace Fault.Among

variable {α β : Type} {fs : List Fault}

theorem ok (a : α) : Among fs (Except.ok a : Except Fault α) := by
  intro g h
  cases h

theorem fault {g : Fault} (h : g ∈ fs) : Among fs (Except.error g : Except Fault α) := by
  intro g' h'
  cases h'
  exact h

/-- The fault of a computation, passed on. -/
theorem error {r : Except Fault α} (hr : Among fs r) {f : Fault} (h : r = .error f) :
    Among fs (Except.error f : Except Fault β) :=
  .fault (hr f h)

theorem mono {gs : List Fault} {r : Except Fault α} (hr : Among fs r) (h : fs ⊆ gs) : Among gs r :=
  fun g hg => h (hr g hg)

end Fault.Among

namespace Failure

/-- An ordinary fault, or an expansion error of a kind. -/
def IsOf (P : ExpansionError → Prop) : Failure → Prop
  | fault g => g.IsOrdinary
  | expansion e => P e

theorem IsOf.mono {P Q : ExpansionError → Prop} {e : Failure} (h : e.IsOf P)
    (hP : ∀ e, P e → Q e) : e.IsOf Q := by
  cases e with
  | fault g => exact h
  | expansion e => exact hP e h

/-- A result, or such a failure. -/
def Among {α : Type} (P : ExpansionError → Prop) (r : Except Failure α) : Prop :=
  ∀ e, r = .error e → e.IsOf P

end Failure

namespace Failure.Among

variable {α β : Type} {P Q : ExpansionError → Prop}

theorem ok (a : α) : Among P (Except.ok a : Except Failure α) := by
  intro e h
  cases h

theorem expansion {e : ExpansionError} (h : P e) :
    Among P (Except.error (.expansion e) : Except Failure α) := by
  intro e' h'
  cases h'
  exact h

theorem fault {g : Fault} (h : g.IsOrdinary) :
    Among P (Except.error (.fault g) : Except Failure α) := by
  intro e h'
  cases h'
  exact h

/-- The failure of a computation, passed on. -/
theorem error {r : Except Failure α} (hr : Among P r) {e : Failure} (h : r = .error e) :
    Among P (Except.error e : Except Failure β) := by
  intro e' he
  cases he
  exact hr e h

/-- A fault that ends a computation within another, passed on. -/
theorem passed {fs : List Fault} {r : Except Fault α} (hr : Fault.Among fs r) {f : Fault}
    (h : r = .error f) (hfs : ∀ g ∈ fs, g.IsOrdinary) :
    Among P (Except.error (.fault f) : Except Failure β) :=
  .fault (hfs f (hr f h))

theorem mono {r : Except Failure α} (hr : Among P r) (hP : ∀ e, P e → Q e) : Among Q r :=
  fun e he => (hr e he).mono hP

end Failure.Among

/-- An evaluation that ends so, wherever its cursor is. -/
def Evaluation.Among {α : Type} (P : ExpansionError → Prop) (x : Evaluation α) : Prop :=
  ∀ n e m, x.run n = .error e m → e.IsOf P

namespace Evaluation.Among

variable {α β : Type} {P Q : ExpansionError → Prop}

theorem pure (a : α) : Among P (Pure.pure a : Evaluation α) := by
  intro n e m h
  cases h

theorem throw {e : Failure} (h : e.IsOf P) : Among P (throw e : Evaluation α) := by
  intro n e' m h'
  cases h'
  exact h

theorem fail {e : ExpansionError} (h : P e) : Among P (Evaluation.fail e : Evaluation α) :=
  throw h

theorem bind {x : Evaluation α} {f : α → Evaluation β} (hx : Among P x)
    (hf : ∀ a n m, x.run n = .ok a m → Among P (f a)) : Among P (x >>= f) := by
  intro n e m' h
  rw [run_bind] at h
  cases hrun : x.run n with
  | ok a k =>
    rw [hrun] at h
    exact hf a n k hrun k e m' h
  | error e' k =>
    rw [hrun] at h
    cases h
    exact hx n e _ hrun

theorem mono {x : Evaluation α} (hx : Among P x) (hP : ∀ e, P e → Q e) : Among Q x :=
  fun n e m he => (hx n e m he).mono hP

theorem map {x : Evaluation α} (hx : Among P x) (f : α → β) : Among P (f <$> x) := by
  rw [map_eq_pure_bind]
  exact hx.bind fun a _ _ _ => pure (f a)

theorem ofFault {fs : List Fault} {r : Except Fault α} (h : Fault.Among fs r)
    (hfs : ∀ g ∈ fs, g.IsOrdinary) : Among P (Evaluation.ofFault r) := by
  cases r with
  | ok a => exact pure a
  | error g => exact throw (hfs g (h g rfl))

theorem ofExcept {r : Except Failure α} (h : Failure.Among P r) :
    Among P (Evaluation.ofExcept r) := by
  cases r with
  | ok a => exact pure a
  | error e => exact throw (h e rfl)

end Evaluation.Among

/-! ## Numbers and texts -/

namespace Number

theorem among_decimalText (i : Int) : Fault.Among [.tooManyDigits] (decimalText i) := by
  simp only [decimalText]
  split
  · exact .fault (List.mem_singleton_self _)
  · exact .ok _

theorem among_readDigits (t : Text) : Fault.Among [.tooManyDigits] (readDigits t) := by
  unfold readDigits
  split
  · exact .fault (List.mem_singleton_self _)
  · exact .ok _

theorem among_readInteger (t : Text) : Fault.Among [.tooManyDigits] (readInteger t) := by
  simp only [readInteger]
  split
  · rename_i h
    exact .error (among_readDigits _) h
  · exact .ok _

end Number

namespace Value

mutual

/-- By recursion on the value and on what it holds. -/
theorem among_literal : ∀ v : Value, Fault.Among [.tooManyDigits] (literal v)
  | none => fun _ h => by cases h
  | bool b => fun _ h => by cases h
  | int i => Number.among_decimalText i
  | float x => fun _ h => by cases h
  | text t => fun _ h => by cases h
  | moment m => fun _ h => by cases h
  | date d => fun _ h => by cases h
  | octets bytes => fun _ h => by cases h
  | list items => by
    rw [literal]
    split
    · rename_i h
      exact .error (among_literals items) h
    · exact .ok _
  | tuple items => by
    rw [literal]
    split
    · rename_i h
      exact .error (among_literals items) h
    · exact .ok _
  | set items => by
    rw [literal]
    split
    · rename_i h
      exact .error (among_literals items) h
    · exact .ok _
  | dict entries => by
    rw [literal]
    split
    · rename_i h
      exact .error (among_entryLiterals entries) h
    · exact .ok _

theorem among_literals : ∀ vs : List Value, Fault.Among [.tooManyDigits] (literals vs)
  | [] => fun _ h => by cases h
  | v :: vs => by
    rw [literals]
    split
    · rename_i h
      exact .error (among_literal v) h
    · split
      · rename_i h
        exact .error (among_literals vs) h
      · exact .ok _

theorem among_entryLiterals :
    ∀ es : List (Value × Value), Fault.Among [.tooManyDigits] (entryLiterals es)
  | [] => fun _ h => by cases h
  | (k, v) :: es => by
    rw [entryLiterals]
    split
    · rename_i h
      exact .error (among_literal k) h
    · split
      · rename_i h
        exact .error (among_literal v) h
      · split
        · rename_i h
          exact .error (among_entryLiterals es) h
        · exact .ok _

end

theorem among_toText (v : Value) : Fault.Among [.tooManyDigits] v.toText := by
  unfold toText
  split
  · exact .ok _
  · exact .ok _
  · exact .ok _
  · exact .ok _
  · exact among_literal v

theorem among_toInteger (v : Value) :
    Failure.Among
      (fun e => ∃ got, e = .notIntegerReference got) v.toInteger := by
  unfold toInteger
  split
  · exact .ok _
  · exact .ok _
  · split
    · exact .fault (by decide)
    · split
      · exact .fault (by decide)
      · exact .ok _
  · split
    · rename_i htext
      exact .passed (among_toText _) htext (by decide)
    · exact .ok _
    · split
      · split
        · rename_i hread
          exact .passed (Number.among_readInteger _) hread (by decide)
        · exact .ok _
      · exact .expansion ⟨_, rfl⟩

theorem among_toMoment? (v : Value) :
    Fault.Among [.firstDayOfCalendar, .instantOutOfRange] v.toMoment? := by
  unfold toMoment?
  split
  · split
    · exact .ok _
    · split
      · exact .fault (by decide)
      · exact .ok _
  · simp only
    split
    · exact .ok _
    · exact .fault (by decide)
  · exact .ok _

end Value

end BraceTemplate
