import BraceTemplate.Proofs.Segments

/-!
# BraceTemplate.Proofs.Correspondence

Two evaluations side by side. They correspond from one relation of cursors to another if, started
at related cursors, they end with the same result at related cursors, or with the same failure.
Correspondence is carried from operands to operators, bodies, tokens and whole templates, so that a
comparison of two expansions is left with its operands and its bases:

* `Reference.Corresponds`, `Operator.Corresponds`, `Body.Corresponds`, `Token.Corresponds`: what has
  to hold of the parts, one constructor for each way to resolve or to apply them.
* `Chain`: the same for a list, each element starting where the one before it ends.
* `expandTokens_eq_of_chain`: tokens that correspond expand to the same text or fail alike.
-/

namespace BraceTemplate

/-- A relation of two cursors. -/
abbrev Cursors := Nat → Nat → Prop

namespace Evaluation

variable {α β : Type} {R S T : Cursors}

/-- Two ends of evaluations: one result at related cursors, or one failure. -/
inductive SameEnd (S : Cursors) :
    EStateM.Result Failure Nat α → EStateM.Result Failure Nat α → Prop where
  | ok {a : α} {m k : Nat} (h : S m k) : SameEnd S (.ok a m) (.ok a k)
  | error {e : Failure} {m k : Nat} : SameEnd S (.error e m) (.error e k)

/-- From related cursors, the same end. -/
def Corresponds (R S : Cursors) (x y : Evaluation α) : Prop :=
  ∀ m k, R m k → SameEnd S (x.run m) (y.run k)

theorem run_bind (x : Evaluation α) (f : α → Evaluation β) (n : Nat) :
    (x >>= f).run n =
      match x.run n with
      | .ok a m => (f a).run m
      | .error e m => .error e m := by
  show EStateM.bind x f n = _
  unfold EStateM.bind EStateM.run
  cases x n with
  | ok a m => rfl
  | error e m => rfl

namespace Corresponds

theorem pure (a : α) (h : ∀ m k, R m k → S m k) :
    Corresponds R S (Pure.pure a : Evaluation α) (Pure.pure a) := fun m k hr => .ok (h m k hr)

theorem throw (e : Failure) : Corresponds R S (throw e : Evaluation α) (throw e) :=
  fun _ _ _ => .error

theorem bind {x y : Evaluation α} {f g : α → Evaluation β} (hx : Corresponds R S x y)
    (hf : ∀ a, Corresponds S T (f a) (g a)) : Corresponds R T (x >>= f) (y >>= g) := by
  intro m k hr
  have hend := hx m k hr
  rw [run_bind, run_bind]
  generalize x.run m = u, y.run k = v at hend
  cases hend with
  | ok hs => exact hf _ _ _ hs
  | error => exact .error

theorem map {x y : Evaluation α} (hx : Corresponds R S x y) (f : α → β) :
    Corresponds R S (f <$> x) (f <$> y) := by
  intro m k hr
  have hend := hx m k hr
  rw [run_map, run_map]
  generalize x.run m = u, y.run k = v at hend
  cases hend with
  | ok hs => exact .ok hs
  | error => exact .error

/-- The relation at the end may be replaced by a weaker one. -/
theorem weaken {x y : Evaluation α} (hx : Corresponds R S x y) (h : ∀ m k, S m k → T m k) :
    Corresponds R T x y := by
  intro m k hr
  have hend := hx m k hr
  generalize x.run m = u, y.run k = v at hend
  cases hend with
  | ok hs => exact .ok (h _ _ hs)
  | error => exact .error

theorem ofExcept (r : Except Failure α) :
    Corresponds R R (Evaluation.ofExcept r) (Evaluation.ofExcept r) := by
  cases r with
  | ok a => exact pure a fun _ _ h => h
  | error e => exact throw e

theorem ofFault (r : Except Fault α) :
    Corresponds R R (Evaluation.ofFault r) (Evaluation.ofFault r) := by
  cases r with
  | ok a => exact pure a fun _ _ h => h
  | error f => exact throw _

theorem outcome_eq {x y : Evaluation α} (h : Corresponds R S x y) (h0 : R 0 0) :
    outcome x = outcome y := by
  have hend := h 0 0 h0
  unfold outcome
  generalize x.run 0 = u, y.run 0 = v at hend
  cases hend with
  | ok hs => rfl
  | error => rfl

end Corresponds

end Evaluation

/-- Lists of which each element corresponds to its counterpart, from where the elements before it
end. -/
inductive Chain {α : Type} (P : Cursors → Cursors → α → α → Prop) :
    Cursors → Cursors → List α → List α → Prop where
  | nil {R : Cursors} : Chain P R R [] []
  | cons {R S T : Cursors} {a b : α} {as bs : List α} (h : P R S a b) (hs : Chain P S T as bs) :
      Chain P R T (a :: as) (b :: bs)

section

variable {settings : Settings} {p q : List Value} {clock clock' : Calendar.Moment}
variable {R S T : Cursors}

namespace Reference

/-- The value that an indirect operand stands for: empty text if the parameters end before it. -/
def valueOrEmpty (ctx : Context) (r : Reference) : Evaluation Value :=
  (·.getD (.text [])) <$> r.resolveValue ctx

theorem run_valueOrEmpty_next (ctx : Context) (n : Nat) :
    (next.valueOrEmpty ctx).run n =
      .ok ((ctx.parameter? (n + 1 : Nat)).getD (.text [])) (n + 1) := rfl

theorem run_valueOrEmpty_fixed (ctx : Context) (i : Int) (n : Nat) :
    ((fixed i).valueOrEmpty ctx).run n = .ok ((ctx.parameter? i).getD (.text [])) n := rfl

theorem resolveInteger_of_isIndirect {ctx : Context} {r : Reference} (h : r.isIndirect = true) :
    r.resolveInteger ctx = r.valueOrEmpty ctx >>= fun v => Evaluation.ofExcept v.toInteger := by
  rcases r with t | _ | n
  · cases h
  all_goals
    simp only [resolveInteger, valueOrEmpty, bind_map_left]
    congr 1
    funext o
    rcases o with _ | v
    · rfl
    · simp only [Option.getD_some]
      cases v.toInteger with
      | ok i => rfl
      | error e => rfl

theorem resolveText_of_isIndirect {ctx : Context} {r : Reference} (h : r.isIndirect = true) :
    r.resolveText ctx = r.valueOrEmpty ctx >>= fun v => some <$> Evaluation.ofFault v.toText := by
  rcases r with t | _ | n
  · cases h
  all_goals
    simp only [resolveText, valueOrEmpty, bind_map_left]
    congr 1
    funext o
    rcases o with _ | v
    · rfl
    · rfl

/-- Two references that resolve alike: one literal text, or two indirect operands of which the
values correspond. -/
inductive Corresponds (settings : Settings) (p q : List Value) (R S : Cursors) :
    Reference → Reference → Prop where
  | literal {t : Option Text} (h : ∀ m k, R m k → S m k) :
      Corresponds settings p q R S (.literal t) (.literal t)
  | indirect {r r' : Reference} (hr : r.isIndirect = true) (hr' : r'.isIndirect = true)
      (h : Evaluation.Corresponds R S (r.valueOrEmpty (settings.context p))
        (r'.valueOrEmpty (settings.context q))) :
      Corresponds settings p q R S r r'

namespace Corresponds

variable {r r' : Reference}

theorem resolveInteger (h : Reference.Corresponds settings p q R S r r') :
    Evaluation.Corresponds R S (r.resolveInteger (settings.context p))
      (r'.resolveInteger (settings.context q)) := by
  cases h with
  | @literal t hrel =>
    intro m k hr
    cases t with
    | none => exact .error
    | some s =>
      simp only [Reference.resolveInteger]
      split
      · exact (Evaluation.Corresponds.ofFault _).weaken hrel m k hr
      · exact .error
  | indirect hr hr' hv =>
    rw [resolveInteger_of_isIndirect hr, resolveInteger_of_isIndirect hr']
    exact hv.bind fun v => .ofExcept _

theorem resolveText (h : Reference.Corresponds settings p q R S r r') :
    Evaluation.Corresponds R S (r.resolveText (settings.context p))
      (r'.resolveText (settings.context q)) := by
  cases h with
  | literal hrel => exact .pure _ hrel
  | indirect hr hr' hv =>
    rw [resolveText_of_isIndirect hr, resolveText_of_isIndirect hr']
    exact hv.bind fun v => .map (.ofFault _) some

end Corresponds

end Reference

namespace Operator

/-- Two operators of one kind with operands that correspond, the second from where the first
ends. The group of an extraction may be left unresolved, so that its cursors have to be good
without it, too. -/
inductive Corresponds (settings : Settings) (p q : List Value) :
    Cursors → Cursors → Operator → Operator → Prop where
  | plain {R : Cursors} {o : Operator} (h : o.operands = []) : Corresponds settings p q R R o o
  | slice {R S T : Cursors} {a a' b b' : Reference}
      (ha : Reference.Corresponds settings p q R S a a')
      (hb : Reference.Corresponds settings p q S T b b') :
      Corresponds settings p q R T (.slice a b) (.slice a' b')
  | sliceLength {R S T : Cursors} {a a' b b' : Reference}
      (ha : Reference.Corresponds settings p q R S a a')
      (hb : Reference.Corresponds settings p q S T b b') :
      Corresponds settings p q R T (.sliceLength a b) (.sliceLength a' b')
  | extract {R S T : Cursors} {a a' b b' : Reference}
      (ha : Reference.Corresponds settings p q R S a a')
      (hb : Reference.Corresponds settings p q S T b b') (h : ∀ m k, S m k → T m k) :
      Corresponds settings p q R T (.extract a b) (.extract a' b')
  | printf {R S : Cursors} {a a' : Reference} (ha : Reference.Corresponds settings p q R S a a') :
      Corresponds settings p q R S (.printf a) (.printf a')
  | date {R S T : Cursors} {a a' b b' : Reference}
      (ha : Reference.Corresponds settings p q R S a a')
      (hb : Reference.Corresponds settings p q S T b b') :
      Corresponds settings p q R T (.date a b) (.date a' b')

theorem corresponds_onText (f : Text → Text) (v : Value) :
    Evaluation.Corresponds R R (onText f v) (onText f v) :=
  (Evaluation.Corresponds.ofFault _).bind fun _ => .pure _ fun _ _ h => h

theorem corresponds_encodeText (encode : Text → Except Fault Text) (v : Value) :
    Evaluation.Corresponds R R (encodeText encode v) (encodeText encode v) :=
  (Evaluation.Corresponds.ofFault _).bind fun _ => .ofFault _

theorem corresponds_requireText (t : Option Text) :
    Evaluation.Corresponds R R (requireText t) (requireText t) := by
  cases t with
  | none => exact .throw _
  | some s => exact .pure _ fun _ _ h => h

theorem corresponds_applyText_of_operands [Packages] {o : Operator} (h : o.operands = [])
    (v : Value) :
    Evaluation.Corresponds R R (o.applyText (settings.context p) v)
      (o.applyText (settings.context q) v) := by
  cases o with
  | trim => exact corresponds_onText _ v
  | lower => exact corresponds_onText _ v
  | upper => exact corresponds_onText _ v
  | urlEncode => exact corresponds_encodeText _ v
  | base64Encode => exact corresponds_encodeText _ v
  | base64Decode => exact corresponds_onText _ v
  | urlDecode =>
    refine (Evaluation.Corresponds.ofFault _).bind fun t => ?_
    cases Codec.Percent.decode t with
    | ok decoded => exact .pure _ fun _ _ h => h
    | error e => exact .throw _
  | slice a b => cases h
  | sliceLength a b => cases h
  | extract a b => cases h
  | printf a => cases h
  | date a b => cases h

theorem corresponds_applyExtract [Packages] {a a' b b' : Reference}
    (ha : Reference.Corresponds settings p q R S a a')
    (hb : Reference.Corresponds settings p q S T b b') (hrel : ∀ m k, S m k → T m k) (v : Value) :
    Evaluation.Corresponds R T (applyExtract (settings.context p) a b v)
      (applyExtract (settings.context q) a' b' v) := by
  refine (Evaluation.Corresponds.ofFault _).bind fun text => ha.resolveText.bind fun pattern => ?_
  refine (corresponds_requireText pattern).bind fun written => ?_
  cases Packages.engine.compile written with
  | error e => exact .throw _
  | ok compiled =>
    simp only
    cases Packages.engine.search compiled text with
    | none => exact .pure _ hrel
    | some found =>
      refine hb.resolveText.bind fun name => ?_
      exact (Evaluation.Corresponds.ofFault _).bind fun key => .pure _ fun _ _ h => h

theorem corresponds_applyDate [Packages] {a a' b b' : Reference}
    (ha : Reference.Corresponds settings p q R S a a')
    (hb : Reference.Corresponds settings p q S T b b') (v : Value) :
    Evaluation.Corresponds R T (applyDate (settings.context p) a b v)
      (applyDate (settings.context q) a' b' v) := by
  refine ha.resolveText.bind fun written => hb.resolveText.bind fun name => ?_
  simp only [Settings.context]
  cases Calendar.resolveZone name settings.defaultZone with
  | error e => exact .throw _
  | ok zone =>
    refine (Evaluation.Corresponds.ofFault _).bind fun moment => ?_
    cases moment with
    | none => exact .pure _ fun _ _ h => h
    | some m => exact .ofExcept _

namespace Corresponds

variable {o o' : Operator}

theorem applyText [Packages] (h : Operator.Corresponds settings p q R T o o') (v : Value) :
    Evaluation.Corresponds R T (o.applyText (settings.context p) v)
      (o'.applyText (settings.context q) v) := by
  cases h with
  | plain ho => exact corresponds_applyText_of_operands ho v
  | slice ha hb =>
    exact (Evaluation.Corresponds.ofFault _).bind fun text => ha.resolveInteger.bind fun i =>
      hb.resolveInteger.bind fun j => .pure _ fun _ _ h => h
  | sliceLength ha hb =>
    exact (Evaluation.Corresponds.ofFault _).bind fun text => ha.resolveInteger.bind fun i =>
      hb.resolveInteger.bind fun j => .pure _ fun _ _ h => h
  | extract ha hb hrel => exact corresponds_applyExtract ha hb hrel v
  | printf ha =>
    exact ha.resolveText.bind fun spec => (corresponds_requireText spec).bind fun written =>
      .ofExcept _
  | date ha hb => exact corresponds_applyDate ha hb v

theorem apply [Packages] (h : Operator.Corresponds settings p q R T o o') (v : Value) :
    Evaluation.Corresponds R T (o.apply (settings.context p) v)
      (o'.apply (settings.context q) v) :=
  (h.applyText v).bind fun _ => .pure _ fun _ _ h => h

end Corresponds

/-- Operators that correspond one by one, by induction on the chain. -/
theorem corresponds_applyAll [Packages] {os os' : List Operator}
    (h : Chain (Operator.Corresponds settings p q) R T os os') (v : Value) :
    Evaluation.Corresponds R T (applyAll (settings.context p) os v)
      (applyAll (settings.context q) os' v) := by
  induction h generalizing v with
  | nil => exact .pure _ fun _ _ h => h
  | cons ho _ ih => exact (ho.apply v).bind fun w => ih w

end Operator

namespace Body

/-- Two bodies that start from the same value and apply operators that correspond. -/
structure Corresponds (settings : Settings) (p q : List Value) (clock clock' : Calendar.Moment)
    (R S T : Cursors) (b b' : Body) : Prop where
  base : Evaluation.Corresponds R S (baseValue (settings.context p) clock b.base)
    (baseValue (settings.context q) clock' b'.base)
  operators : Chain (Operator.Corresponds settings p q) S T b.operators b'.operators

theorem Corresponds.evaluate [Packages] {b b' : Body}
    (h : Body.Corresponds settings p q clock clock' R S T b b') :
    Evaluation.Corresponds R T (b.evaluate (settings.context p) clock)
      (b'.evaluate (settings.context q) clock') :=
  h.base.bind fun v => (Operator.corresponds_applyAll h.operators v).bind fun _ => .ofFault _

end Body

namespace Token

/-- Two tokens of one kind: the same text, or bodies that correspond. -/
inductive Corresponds (settings : Settings) (p q : List Value) (clock clock' : Calendar.Moment) :
    Cursors → Cursors → Token → Token → Prop where
  | literal {R : Cursors} {text : Text} :
      Corresponds settings p q clock clock' R R (.literal text) (.literal text)
  | blockOpen {R : Cursors} : Corresponds settings p q clock clock' R R .blockOpen .blockOpen
  | blockClose {R : Cursors} : Corresponds settings p q clock clock' R R .blockClose .blockClose
  | verbatim {R : Cursors} {b : Body} :
      Corresponds settings p q clock clock' R R (.replacement .verbatim b)
        (.replacement .verbatim b)
  | evaluated {R S T : Cursors} {e : Escape} {b b' : Body} (he : e ≠ .verbatim)
      (h : Body.Corresponds settings p q clock clock' R S T b b') :
      Corresponds settings p q clock clock' R T (.replacement e b) (.replacement e b')

theorem corresponds_replace [Packages] {e : Escape} {b b' : Body} (he : e ≠ .verbatim)
    (h : Body.Corresponds settings p q clock clock' R S T b b') :
    Evaluation.Corresponds R T (replace (settings.context p) clock e b)
      (replace (settings.context q) clock' e b') := by
  cases e with
  | plain => exact h.evaluate
  | verbatim => exact absurd rfl he
  | backslashed => exact h.evaluate.bind fun _ => .pure _ fun _ _ h => h

theorem Corresponds.run [Packages] {t t' : Token}
    (h : Token.Corresponds settings p q clock clock' R T t t') (block : Block) :
    Evaluation.Corresponds R T (t.run (settings.context p) clock block)
      (t'.run (settings.context q) clock' block) := by
  cases h with
  | literal => exact .pure _ fun _ _ h => h
  | blockOpen => exact .pure _ fun _ _ h => h
  | blockClose => exact .pure _ fun _ _ h => h
  | verbatim => exact .pure _ fun _ _ h => h
  | evaluated he hb => exact (corresponds_replace he hb).bind fun _ => .pure _ fun _ _ h => h

/-- Tokens that correspond one by one, by induction on the chain. -/
theorem corresponds_runAll [Packages] {ts ts' : List Token}
    (h : Chain (Token.Corresponds settings p q clock clock') R T ts ts') (block : Block) :
    Evaluation.Corresponds R T (runAll (settings.context p) clock ts block)
      (runAll (settings.context q) clock' ts' block) := by
  induction h generalizing block with
  | nil => exact .pure _ fun _ _ h => h
  | cons ht _ ih => exact (ht.run block).bind fun next => ih next

end Token

end

/-- The text that a list of tokens expands to. -/
def expandTokens [Packages] (settings : Settings) (clock : Calendar.Moment) (ts : List Token)
    (parameters : List Value) : Except Failure Text :=
  Evaluation.outcome ((fun b => b.finished.buffer.text) <$>
    Token.runAll (settings.context parameters) clock ts .start)

theorem expandTokens_eq_of_chain [Packages] {settings : Settings} {p q : List Value}
    {clock clock' : Calendar.Moment} {R T : Cursors} {ts ts' : List Token}
    (h : Chain (Token.Corresponds settings p q clock clock') R T ts ts') (h0 : R 0 0) :
    expandTokens settings clock ts p = expandTokens settings clock' ts' q :=
  ((Token.corresponds_runAll h .start).map _).outcome_eq h0

end BraceTemplate
