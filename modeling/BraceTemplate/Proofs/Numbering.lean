import BraceTemplate.Proofs.Correspondence
import BraceTemplate.Proofs.References

/-!
# BraceTemplate.Proofs.Numbering

The shared cursor does what numbering the template would do. The references to the next parameter
are numbered in the order in which they are written, over the tokens that are evaluated, and each
is replaced by the position with its number. What comes of this names positions only, and it
expands as the template does, with the same text or the same failure (`expand_eq_numbered`). The
group of an extraction is resolved only where the pattern matches; so no group may take a parameter.

The relation that carries the induction is `At n`: the cursor of the template is at `n`, and that of
the numbered tokens, which they never look at, is anywhere.
-/

namespace BraceTemplate

namespace Reference

/-- The position in the place of the reference, which has `n` sequential ones before it. -/
def numbered (n : Nat) : Reference → Reference
  | next => fixed (n + 1 : Nat)
  | r => r

/-- References in order, with `n` sequential ones before them. -/
def numberedAll (n : Nat) : List Reference → List Reference
  | [] => []
  | r :: rs => r.numbered n :: numberedAll (n + r.taken) rs

theorem numberedAll_append (n : Nat) (rs ss : List Reference) :
    numberedAll n (rs ++ ss) = numberedAll n rs ++ numberedAll (n + takenAll rs) ss := by
  induction rs generalizing n with
  | nil => simp [numberedAll]
  | cons r rs ih => simp [numberedAll, ih, Nat.add_assoc]

theorem next_not_mem_numberedAll (n : Nat) (rs : List Reference) : next ∉ numberedAll n rs := by
  induction rs generalizing n with
  | nil => simp [numberedAll]
  | cons r rs ih =>
    rw [numberedAll, List.mem_cons, not_or]
    refine ⟨?_, ih _⟩
    cases r with
    | literal t => simp [numbered]
    | next => simp [numbered]
    | fixed i => simp [numbered]

end Reference

namespace Operator

def taken (o : Operator) : Nat := Reference.takenAll o.operands

/-- The operator with its operands numbered, the first before the second. -/
def numbered (n : Nat) : Operator → Operator
  | slice start stop => slice (start.numbered n) (stop.numbered (n + start.taken))
  | sliceLength start length => sliceLength (start.numbered n) (length.numbered (n + start.taken))
  | extract pattern group => extract (pattern.numbered n) (group.numbered (n + pattern.taken))
  | printf specifier => printf (specifier.numbered n)
  | date pattern zone => date (pattern.numbered n) (zone.numbered (n + pattern.taken))
  | o => o

def numberedAll (n : Nat) : List Operator → List Operator
  | [] => []
  | o :: os => o.numbered n :: numberedAll (n + o.taken) os

/-- Whether the operator takes a parameter as the name of a group. -/
def takesGroup : Operator → Bool
  | extract _ .next => true
  | _ => false

theorem operands_numbered (n : Nat) (o : Operator) :
    (o.numbered n).operands = Reference.numberedAll n o.operands := by
  cases o <;> rfl

theorem operands_numberedAll (n : Nat) (os : List Operator) :
    (numberedAll n os).flatMap operands = Reference.numberedAll n (os.flatMap operands) := by
  induction os generalizing n with
  | nil => rfl
  | cons o os ih =>
    rw [numberedAll, List.flatMap_cons, List.flatMap_cons, Reference.numberedAll_append,
      operands_numbered, ih]
    rfl

end Operator

namespace Base

def numbered (n : Nat) : Base → Base
  | next => position (n + 1)
  | b => b

theorem references_numbered (n : Nat) (b : Base) :
    (b.numbered n).references = Reference.numberedAll n b.references := by
  cases b <;> rfl

end Base

namespace Body

/-- The body with its base numbered, and then its operators in order. -/
def numbered (n : Nat) (b : Body) : Body :=
  { b with
    base := b.base.numbered n
    operators := Operator.numberedAll (n + Reference.takenAll b.base.references) b.operators }

theorem references_numbered (n : Nat) (b : Body) :
    (b.numbered n).references = Reference.numberedAll n b.references := by
  rw [references, references, Reference.numberedAll_append, numbered, Base.references_numbered,
    Operator.operands_numberedAll]

end Body

namespace Token

/-- The token with its body numbered, if it is evaluated. -/
def numbered (n : Nat) : Token → Token
  | replacement .verbatim b => replacement .verbatim b
  | replacement e b => replacement e (b.numbered n)
  | t => t

def numberedAll (n : Nat) : List Token → List Token
  | [] => []
  | t :: ts => t.numbered n :: numberedAll (n + Reference.takenAll t.references) ts

/-- Whether an operator of a token that is evaluated takes a parameter as the name of a group. -/
def takesGroup (t : Token) : Bool :=
  (t.evaluated?.map fun b => b.operators.any Operator.takesGroup).getD false

theorem references_numbered (n : Nat) (t : Token) :
    (t.numbered n).references = Reference.numberedAll n t.references := by
  cases t with
  | literal text => rfl
  | blockOpen => rfl
  | blockClose => rfl
  | replacement e b =>
    cases e with
    | plain => exact Body.references_numbered n b
    | verbatim => rfl
    | backslashed => exact Body.references_numbered n b

/-- Numbering the tokens numbers their references in the order in which they are written. -/
theorem references_numberedAll (n : Nat) (ts : List Token) :
    (numberedAll n ts).flatMap references = Reference.numberedAll n (ts.flatMap references) := by
  induction ts generalizing n with
  | nil => rfl
  | cons t ts ih =>
    rw [numberedAll, List.flatMap_cons, List.flatMap_cons, Reference.numberedAll_append,
      references_numbered, ih]

end Token

/-! ## The numbered tokens correspond to the template -/

/-- The first cursor is at `n`. -/
def At (n : Nat) : Cursors := fun m _ => m = n

section

variable {settings : Settings} {p : List Value} {clock : Calendar.Moment}

theorem Reference.corresponds_valueOrEmpty_next (n : Nat) :
    Evaluation.Corresponds (At n) (At (n + 1)) (Reference.next.valueOrEmpty (settings.context p))
      ((Reference.fixed (n + 1 : Nat)).valueOrEmpty (settings.context p)) := by
  intro m k h
  cases h
  rw [run_valueOrEmpty_next, run_valueOrEmpty_fixed]
  exact .ok rfl

theorem Reference.corresponds_valueOrEmpty_fixed (n : Nat) (i : Int) :
    Evaluation.Corresponds (At n) (At n) ((Reference.fixed i).valueOrEmpty (settings.context p))
      ((Reference.fixed i).valueOrEmpty (settings.context p)) := by
  intro m k h
  rw [run_valueOrEmpty_fixed, run_valueOrEmpty_fixed]
  exact .ok h

theorem Reference.corresponds_numbered (n : Nat) (r : Reference) :
    Reference.Corresponds settings p p (At n) (At (n + r.taken)) r (r.numbered n) := by
  cases r with
  | literal t => exact .literal fun _ _ h => h
  | next => exact .indirect rfl rfl (Reference.corresponds_valueOrEmpty_next n)
  | fixed i => exact .indirect rfl rfl (Reference.corresponds_valueOrEmpty_fixed n i)

/-- An operator whose group takes no parameter ends at the same cursor whether or not it looks at
the group. -/
theorem Operator.corresponds_numbered (n : Nat) {o : Operator} (h : o.takesGroup = false) :
    Operator.Corresponds settings p p (At n) (At (n + o.taken)) o (o.numbered n) := by
  have second : ∀ r s : Reference, Reference.Corresponds settings p p (At (n + r.taken))
      (At (n + Reference.takenAll [r, s])) s (s.numbered (n + r.taken)) := by
    intro r s
    rw [Reference.takenAll_cons, Reference.takenAll_cons, Reference.takenAll_nil, Nat.add_zero,
      ← Nat.add_assoc]
    exact Reference.corresponds_numbered (n + r.taken) s
  cases o with
  | trim => exact .plain rfl
  | lower => exact .plain rfl
  | upper => exact .plain rfl
  | urlEncode => exact .plain rfl
  | urlDecode => exact .plain rfl
  | base64Encode => exact .plain rfl
  | base64Decode => exact .plain rfl
  | slice start stop => exact .slice (Reference.corresponds_numbered n start) (second start stop)
  | sliceLength start length =>
    exact .sliceLength (Reference.corresponds_numbered n start) (second start length)
  | extract pattern group =>
    refine .extract (Reference.corresponds_numbered n pattern) (second pattern group) ?_
    have hgroup : group.taken = 0 := by
      cases group with
      | literal t => rfl
      | next => cases h
      | fixed i => rfl
    intro m k hm
    simpa [Operator.taken, Operator.operands, hgroup] using hm
  | printf specifier => exact .printf (Reference.corresponds_numbered n specifier)
  | date pattern zone =>
    exact .date (Reference.corresponds_numbered n pattern) (second pattern zone)

theorem Operator.chain_numberedAll (n : Nat) {os : List Operator}
    (h : os.any Operator.takesGroup = false) :
    Chain (Operator.Corresponds settings p p) (At n)
      (At (n + Reference.takenAll (os.flatMap Operator.operands))) os
      (Operator.numberedAll n os) := by
  induction os generalizing n with
  | nil => exact .nil
  | cons o os ih =>
    rw [List.any_cons, Bool.or_eq_false_iff] at h
    have hs := ih (n + o.taken) h.2
    rw [Nat.add_assoc] at hs
    rw [List.flatMap_cons, Reference.takenAll_append]
    exact .cons (Operator.corresponds_numbered n h.1) hs

theorem Base.corresponds_numbered (n : Nat) (b : Base) :
    Evaluation.Corresponds (At n) (At (n + Reference.takenAll b.references))
      (Body.baseValue (settings.context p) clock b)
      (Body.baseValue (settings.context p) clock (b.numbered n)) := by
  cases b with
  | next => exact Reference.corresponds_valueOrEmpty_next n
  | clock => exact .pure _ fun _ _ h => h
  | position i => exact Reference.corresponds_valueOrEmpty_fixed n i

theorem Body.corresponds_numbered (n : Nat) {b : Body}
    (h : b.operators.any Operator.takesGroup = false) :
    Body.Corresponds settings p p clock clock (At n)
      (At (n + Reference.takenAll b.base.references)) (At (n + Reference.takenAll b.references)) b
      (b.numbered n) where
  base := Base.corresponds_numbered n b.base
  operators := by
    rw [Body.references, Reference.takenAll_append, ← Nat.add_assoc]
    exact Operator.chain_numberedAll _ h

theorem Token.corresponds_numbered (n : Nat) {t : Token} (h : t.takesGroup = false) :
    Token.Corresponds settings p p clock clock (At n) (At (n + Reference.takenAll t.references)) t
      (t.numbered n) := by
  cases t with
  | literal text => exact .literal
  | blockOpen => exact .blockOpen
  | blockClose => exact .blockClose
  | replacement e b =>
    cases e with
    | plain => exact .evaluated (by decide) (Body.corresponds_numbered n h)
    | verbatim => exact .verbatim
    | backslashed => exact .evaluated (by decide) (Body.corresponds_numbered n h)

theorem Token.chain_numberedAll (n : Nat) {ts : List Token}
    (h : ∀ t ∈ ts, t.takesGroup = false) :
    Chain (Token.Corresponds settings p p clock clock) (At n)
      (At (n + Reference.takenAll (ts.flatMap Token.references))) ts (Token.numberedAll n ts) := by
  induction ts generalizing n with
  | nil => exact .nil
  | cons t ts ih =>
    have hs := ih (n + Reference.takenAll t.references) fun u hu => h u (by simp [hu])
    rw [Nat.add_assoc] at hs
    rw [List.flatMap_cons, Reference.takenAll_append]
    exact .cons (Token.corresponds_numbered n (h t (by simp))) hs

end

/-- Numbering a template leaves no sequential reference, numbers them in the order in which they
are written, and changes no expansion and no failure. -/
theorem expand_eq_numbered [Packages] (settings : Settings) (clock : Calendar.Moment)
    (template : Text) (parameters : List Value) (h : (scan template).fault = none)
    (hgroup : ∀ t ∈ (scan template).tokens, t.takesGroup = false) :
    let tokens := (scan template).tokens
    let numbered := Token.numberedAll 0 tokens
    numbered.flatMap Token.references =
        Reference.numberedAll 0 (tokens.flatMap Token.references) ∧
      .next ∉ numbered.flatMap Token.references ∧
      expandTokens settings clock numbered parameters =
        expand settings clock template parameters := by
  intro tokens numbered
  have hrefs := Token.references_numberedAll 0 tokens
  refine ⟨hrefs, ?_, ?_⟩
  · rw [hrefs]
    exact Reference.next_not_mem_numberedAll 0 _
  · rw [expand_eq_outcome h]
    exact (expandTokens_eq_of_chain (Token.chain_numberedAll 0 hgroup) rfl).symm

/-- The references of a substring, of a dropped block and of a token behind two backslashes are
numbered from 1 to 5. -/
theorem expand_numbered_shared :
    expandTokens {} ⟨0, some 0⟩
        (Token.numberedAll 0
          (scan "\x7b[\x7b\x7d,\x7b\x7d]\x7d\x7b?\x7da\x7b\x7d\x7b.\x7d\\\\\x7b\x7d".toText).tokens)
        [.text "hamburger".toText, .int 4, .int 8, .text [], .text ['b']] =
      .ok "urge\\b".toText :=
  (expand_eq_numbered {} ⟨0, some 0⟩
    "\x7b[\x7b\x7d,\x7b\x7d]\x7d\x7b?\x7da\x7b\x7d\x7b.\x7d\\\\\x7b\x7d".toText
    [.text "hamburger".toText, .int 4, .int 8, .text [], .text ['b']]
    (by decide +kernel) (by decide +kernel)).2.2.trans (by decide +kernel)

end BraceTemplate
