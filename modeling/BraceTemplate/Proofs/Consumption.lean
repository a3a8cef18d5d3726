import BraceTemplate.Proofs.Application

/-!
# BraceTemplate.Proofs.Consumption

How many parameters a run takes. `Took n k missed` bounds the end of an evaluation that starts at
the cursor `n`: it has taken `k` parameters but the `missed` ones, or, if it failed, at most `k`.
The one operand that a run that ends well may leave unresolved is the group of an extraction that
finds nothing, so that `missed` counts such applications, and `k` is what the report counts
(`position_of_expansion`).
-/

namespace BraceTemplate

namespace Evaluation

variable {α β : Type} {n k l i j : Nat} {x : Evaluation α}

/-- Where an evaluation ends that starts at the cursor `n`, with a result or without. -/
def endOf (x : Evaluation α) (n : Nat) : Nat :=
  match x.run n with
  | .ok _ m => m
  | .error _ m => m

/-- An evaluation never goes back. -/
def Forward (x : Evaluation α) : Prop := ∀ n, n ≤ x.endOf n

/-- An evaluation leaves the cursor where it is. -/
def Still (x : Evaluation α) : Prop := ∀ n, x.endOf n = n

/-- The end of an evaluation from the cursor `n`: it has taken `k` parameters but the missed ones,
or at most `k` if it failed. -/
def Took (n k missed : Nat) : EStateM.Result Failure Nat α → Prop
  | .ok _ m => n ≤ m ∧ m + missed = n + k
  | .error _ m => n ≤ m ∧ m ≤ n + k

/-- From every cursor an evaluation takes `k` parameters. -/
def Takes (k : Nat) (x : Evaluation α) : Prop := ∀ n, Took n k 0 (x.run n)

theorem Took.le_endOf (h : Took n k i (x.run n)) : n ≤ x.endOf n := by
  unfold endOf
  cases hx : x.run n with
  | ok a m =>
    rw [hx] at h
    exact h.1
  | error e m =>
    rw [hx] at h
    exact h.1

theorem Took.endOf_le (h : Took n k i (x.run n)) : x.endOf n ≤ n + k := by
  unfold endOf
  cases hx : x.run n with
  | ok a m =>
    rw [hx] at h
    exact h.2 ▸ Nat.le_add_right m i
  | error e m =>
    rw [hx] at h
    exact h.2

theorem Took.endOf_add (h : Took n k i (x.run n)) {a : α} {m : Nat} (hx : x.run n = .ok a m) :
    x.endOf n + i = n + k := by
  unfold endOf
  rw [hx] at h ⊢
  exact h.2

/-- What is taken one after the other is added up. -/
theorem Took.bind {f : α → Evaluation β} (hx : Took n k i (x.run n))
    (hf : ∀ a m, x.run n = .ok a m → Took m l j ((f a).run m)) :
    Took n (k + l) (i + j) ((x >>= f).run n) := by
  rw [run_bind]
  cases h : x.run n with
  | error e m =>
    rw [h] at hx
    exact ⟨hx.1, Nat.le_trans hx.2 (by omega)⟩
  | ok a m =>
    rw [h] at hx
    obtain ⟨hle, hm⟩ := hx
    have hrest := hf a m h
    simp only
    cases hy : (f a).run m with
    | ok b p =>
      rw [hy] at hrest
      exact ⟨Nat.le_trans hle hrest.1, by have := hrest.2; omega⟩
    | error e p =>
      rw [hy] at hrest
      exact ⟨Nat.le_trans hle hrest.1, by have := hrest.2; omega⟩

theorem Took.map (hx : Took n k i (x.run n)) (f : α → β) : Took n k i ((f <$> x).run n) := by
  rw [run_map]
  cases h : x.run n with
  | ok a m =>
    rw [h] at hx
    exact hx
  | error e m =>
    rw [h] at hx
    exact hx

namespace Takes

theorem pure (a : α) : Takes 0 (Pure.pure a : Evaluation α) := fun n => ⟨Nat.le_refl n, rfl⟩

/-- A failure takes nothing, whatever would have been taken. -/
theorem throw (e : Failure) : Takes k (throw e : Evaluation α) :=
  fun n => ⟨Nat.le_refl n, Nat.le_add_right n k⟩

theorem bind {f : α → Evaluation β} (hx : Takes k x) (hf : ∀ a, Takes l (f a)) :
    Takes (k + l) (x >>= f) := fun n => (hx n).bind fun a m _ => hf a m

/-- What comes first may take nothing. -/
theorem zero_bind {f : α → Evaluation β} (hx : Takes 0 x) (hf : ∀ a, Takes k (f a)) :
    Takes k (x >>= f) := by
  simpa using hx.bind hf

theorem map (hx : Takes k x) (f : α → β) : Takes k (f <$> x) := fun n => (hx n).map f

theorem ofFault (r : Except Fault α) : Takes 0 (Evaluation.ofFault r) := by
  cases r with
  | ok a => exact pure a
  | error f => exact throw _

theorem ofExcept (r : Except Failure α) : Takes 0 (Evaluation.ofExcept r) := by
  cases r with
  | ok a => exact pure a
  | error e => exact throw e

theorem forward (h : Takes k x) : Forward x := fun n => (h n).le_endOf

theorem still (h : Takes 0 x) : Still x :=
  fun n => Nat.le_antisymm (h n).endOf_le (h n).le_endOf

end Takes

/-- An evaluation that goes on from another one ends behind it. -/
theorem endOf_le_endOf_bind (x : Evaluation α) {f : α → Evaluation β} (hf : ∀ a, Forward (f a))
    (n : Nat) : x.endOf n ≤ (x >>= f).endOf n := by
  unfold endOf
  rw [run_bind]
  cases x.run n with
  | ok a m => exact hf a m
  | error e m => exact Nat.le_refl m

end Evaluation

open Evaluation

variable {ctx : Context} {clock : Calendar.Moment}

namespace Reference

theorem takes_valueOrEmpty (ctx : Context) {r : Reference} (h : r.isIndirect = true) :
    Takes r.taken (r.valueOrEmpty ctx) := by
  cases r with
  | literal t => cases h
  | next =>
    intro n
    rw [run_valueOrEmpty_next]
    exact ⟨Nat.le_succ n, rfl⟩
  | fixed i =>
    intro n
    rw [run_valueOrEmpty_fixed]
    exact ⟨Nat.le_refl n, rfl⟩

theorem takes_resolveText (ctx : Context) (r : Reference) : Takes r.taken (r.resolveText ctx) := by
  cases hr : r.isIndirect with
  | true =>
    rw [resolveText_of_isIndirect hr]
    exact (takes_valueOrEmpty ctx hr).bind fun v => .map (.ofFault _) some
  | false =>
    cases r with
    | literal t => exact .pure t
    | next => cases hr
    | fixed i => cases hr

theorem takes_resolveInteger (ctx : Context) (r : Reference) :
    Takes r.taken (r.resolveInteger ctx) := by
  cases hr : r.isIndirect with
  | true =>
    rw [resolveInteger_of_isIndirect hr]
    exact (takes_valueOrEmpty ctx hr).bind fun v => .ofExcept _
  | false =>
    cases r with
    | literal t =>
      cases t with
      | none => exact .throw _
      | some s =>
        simp only [resolveInteger]
        split
        · exact .ofFault _
        · exact .throw _
    | next => cases hr
    | fixed i => cases hr

end Reference

namespace Operator

/-- An operator as it is applied: to a value, with the cursor at a position. -/
structure Application where
  operator : Operator
  value : Value
  cursor : Nat

/-- The first part of an extraction: the match of the pattern in the value, if there is one. -/
def search [Packages] (ctx : Context) (pattern : Reference) (v : Value) :
    Evaluation (Option (Packages.engine.Compiled × Packages.engine.Match)) := do
  let text ← Evaluation.ofFault v.toText
  let written ← requireText (← pattern.resolveText ctx)
  match Packages.engine.compile written with
  | .error e => throw (compileFailure written e)
  | .ok compiled =>
    pure ((Packages.engine.search compiled text).map fun found => (compiled, found))

/-- The second part of an extraction: the group of the match. Without a match the group is not
resolved. -/
def capture [Packages] (ctx : Context) (group : Reference) :
    Option (Packages.engine.Compiled × Packages.engine.Match) → Evaluation Text
  | none => pure []
  | some (compiled, found) => do
    let name := match ← group.resolveText ctx with
      | none => ['0']
      | some [] => ['0']
      | some n => n
    let key ← Evaluation.ofFault (groupKey name)
    pure ((Packages.engine.captured? compiled found key).getD [])

theorem applyExtract_eq [Packages] (ctx : Context) (pattern group : Reference) (v : Value) :
    applyExtract ctx pattern group v = search ctx pattern v >>= capture ctx group := by
  simp only [applyExtract, search, bind_assoc]
  congr 1
  funext text
  congr 1
  funext given
  congr 1
  funext written
  cases Packages.engine.compile written with
  | error e => rfl
  | ok compiled =>
    simp only [pure_bind]
    cases Packages.engine.search compiled text with
    | none => rfl
    | some found => rfl

/-- An extraction that leaves its group unresolved, although the group is the next parameter: its
search ends without a match. -/
def Application.misses [Packages] (ctx : Context) (a : Application) : Bool :=
  match a.operator with
  | extract pattern .next =>
    match (search ctx pattern a.value).run a.cursor with
    | .ok none _ => true
    | _ => false
  | _ => false

theorem takes_onText (f : Text → Text) (v : Value) : Takes 0 (onText f v) :=
  (Takes.ofFault _).zero_bind fun _ => .pure _

theorem takes_encodeText (encode : Text → Except Fault Text) (v : Value) :
    Takes 0 (encodeText encode v) :=
  (Takes.ofFault _).zero_bind fun _ => .ofFault _

theorem takes_requireText (t : Option Text) : Takes 0 (requireText t) := by
  cases t with
  | none => exact .throw _
  | some s => exact .pure s

theorem takes_search [Packages] (ctx : Context) (pattern : Reference) (v : Value) :
    Takes pattern.taken (search ctx pattern v) := by
  refine (Takes.ofFault _).zero_bind fun text =>
    (pattern.takes_resolveText ctx).bind (l := 0) fun given =>
      (takes_requireText given).zero_bind fun written => ?_
  cases Packages.engine.compile written with
  | error e => exact .throw _
  | ok compiled => exact .pure _

theorem takes_capture_some [Packages] (ctx : Context) (group : Reference)
    (found : Packages.engine.Compiled × Packages.engine.Match) :
    Takes group.taken (capture ctx group (some found)) :=
  (group.takes_resolveText ctx).bind fun _ => (Takes.ofFault _).zero_bind fun _ => .pure _

/-- An extraction takes what its operands take, unless it misses its group. -/
theorem took_applyExtract [Packages] (ctx : Context) (pattern group : Reference) (v : Value)
    (n : Nat) :
    Took n (pattern.taken + group.taken)
      (if (Application.mk (extract pattern group) v n).misses ctx then 1 else 0)
      ((applyExtract ctx pattern group v).run n) := by
  rw [applyExtract_eq, ← Nat.zero_add (ite _ _ _)]
  refine (takes_search ctx pattern v n).bind fun found m hfound => ?_
  cases found with
  | none =>
    cases group with
    | next => simp [Application.misses, hfound, capture, Took, Reference.taken]
    | literal t => exact Takes.pure [] m
    | fixed i => exact Takes.pure [] m
  | some found =>
    cases group with
    | next =>
      simp only [Application.misses, hfound]
      exact takes_capture_some ctx .next found m
    | literal t => exact takes_capture_some ctx (.literal t) found m
    | fixed i => exact takes_capture_some ctx (.fixed i) found m

theorem takes_applyDate [Packages] (ctx : Context) (pattern zone : Reference) (v : Value) :
    Takes (pattern.taken + zone.taken) (applyDate ctx pattern zone v) := by
  refine (pattern.takes_resolveText ctx).bind fun written =>
    (zone.takes_resolveText ctx).bind (l := 0) fun name => ?_
  cases Calendar.resolveZone name ctx.defaultZone with
  | error e => exact .throw _
  | ok z =>
    refine (Takes.ofFault _).zero_bind fun moment => ?_
    cases moment with
    | none => exact .pure _
    | some m => exact .ofExcept _

theorem takes_bounds (ctx : Context) (a b : Reference) (v : Value) (f : Text → Int → Int → Text) :
    Takes (a.taken + b.taken) (do
      let text ← Evaluation.ofFault v.toText
      let i ← a.resolveInteger ctx
      let j ← b.resolveInteger ctx
      pure (f text i j)) :=
  (Takes.ofFault _).zero_bind fun _ => (a.takes_resolveInteger ctx).bind fun _ =>
    (b.takes_resolveInteger ctx).bind fun _ => .pure _

/-- An operator takes what its operands take, one case per operator. -/
theorem took_applyText [Packages] (ctx : Context) (o : Operator) (v : Value) (n : Nat) :
    Took n (Reference.takenAll o.operands) (if (Application.mk o v n).misses ctx then 1 else 0)
      ((o.applyText ctx v).run n) := by
  cases o with
  | trim => exact takes_onText _ v n
  | lower => exact takes_onText _ v n
  | upper => exact takes_onText _ v n
  | urlEncode => exact takes_encodeText _ v n
  | base64Encode => exact takes_encodeText _ v n
  | base64Decode => exact takes_onText _ v n
  | urlDecode =>
    refine (Takes.ofFault _).zero_bind (k := 0) (fun t => ?_) n
    cases Codec.Percent.decode t with
    | ok decoded => exact .pure _
    | error e => exact .throw _
  | slice a b => exact takes_bounds ctx a b v sliceText n
  | sliceLength a b => exact takes_bounds ctx a b v sliceLengthText n
  | extract pattern group => exact took_applyExtract ctx pattern group v n
  | printf a =>
    exact (a.takes_resolveText ctx).bind (fun spec =>
      (takes_requireText spec).zero_bind fun written => .ofExcept _) n
  | date pattern zone => exact takes_applyDate ctx pattern zone v n

theorem took_apply [Packages] (ctx : Context) (o : Operator) (v : Value) (n : Nat) :
    Took n (Reference.takenAll o.operands) (if (Application.mk o v n).misses ctx then 1 else 0)
      ((o.apply ctx v).run n) := by
  rw [apply_eq_map]
  exact (took_applyText ctx o v n).map _

/-- The applications of a chain of operators, up to one that fails. -/
def applications [Packages] (ctx : Context) : List Operator → Value → Nat → List Application
  | [], _, _ => []
  | o :: os, v, n =>
    ⟨o, v, n⟩ ::
      match (o.apply ctx v).run n with
      | .ok w m => applications ctx os w m
      | .error _ _ => []

theorem mem_applications_iff [Packages] {os : List Operator} {v : Value} {n : Nat}
    {a : Application} :
    a ∈ applications ctx os v n ↔ Applies ctx os v n a.operator a.value a.cursor := by
  induction os generalizing v n with
  | nil =>
    constructor
    · intro h
      cases h
    · intro h
      cases h
  | cons o os ih =>
    rw [applications, List.mem_cons]
    constructor
    · rintro (rfl | h)
      · exact .first
      · cases hrun : (o.apply ctx v).run n with
        | ok w m =>
          rw [hrun] at h
          exact .later hrun (ih.1 h)
        | error e m =>
          rw [hrun] at h
          cases h
    · intro h
      cases h with
      | first => exact .inl rfl
      | later hrun h =>
        rw [hrun]
        exact .inr (ih.2 h)

/-- By induction on the chain. -/
theorem took_applyAll [Packages] (ctx : Context) (os : List Operator) (v : Value) (n : Nat) :
    Took n (Reference.takenAll (os.flatMap operands))
      ((applications ctx os v n).countP (·.misses ctx)) ((applyAll ctx os v).run n) := by
  induction os generalizing v n with
  | nil => exact Takes.pure v n
  | cons o os ih =>
    rw [applyAll, List.flatMap_cons, Reference.takenAll_append, applications, List.countP_cons,
      Nat.add_comm (List.countP _ _)]
    refine (took_apply ctx o v n).bind fun w m hw => ?_
    rw [hw]
    exact ih w m

theorem applyAll_append [Packages] (ctx : Context) (os os' : List Operator) (v : Value) :
    applyAll ctx (os ++ os') v = applyAll ctx os v >>= applyAll ctx os' := by
  induction os generalizing v with
  | nil => simp [applyAll]
  | cons o os ih => simp [applyAll, ih]

end Operator

namespace Body

theorem takes_baseValue (ctx : Context) (clock : Calendar.Moment) (b : Base) :
    Takes (Reference.takenAll b.references) (baseValue ctx clock b) := by
  cases b with
  | next => exact fun n => ⟨Nat.le_succ n, rfl⟩
  | clock => exact .pure _
  | position i => exact .pure _

/-- The applications of a body that is evaluated. -/
def applications [Packages] (ctx : Context) (clock : Calendar.Moment) (b : Body) (n : Nat) :
    List Operator.Application :=
  match (baseValue ctx clock b.base).run n with
  | .ok v m => Operator.applications ctx b.operators v m
  | .error _ _ => []

theorem took_evaluate [Packages] (ctx : Context) (clock : Calendar.Moment) (b : Body) (n : Nat) :
    Took n (Reference.takenAll b.references)
      ((b.applications ctx clock n).countP (·.misses ctx)) ((b.evaluate ctx clock).run n) := by
  rw [references, Reference.takenAll_append, ← Nat.zero_add (List.countP _ _)]
  refine (takes_baseValue ctx clock b.base n).bind fun v m hv => ?_
  rw [applications, hv]
  exact (Operator.took_applyAll ctx b.operators v m).bind (l := 0) (j := 0)
    fun w p _ => Takes.ofFault _ p

end Body

namespace Token

/-- The applications of a list of tokens, up to one that fails. -/
def applications [Packages] (ctx : Context) (clock : Calendar.Moment) :
    List Token → Nat → List Operator.Application
  | [], _ => []
  | t :: ts, n =>
    (t.evaluated?.map (·.applications ctx clock n)).getD [] ++
      match (t.output ctx clock).run n with
      | .ok _ m => applications ctx clock ts m
      | .error _ _ => []

theorem mem_applications_iff [Packages] {ts : List Token} {n : Nat} {a : Operator.Application} :
    a ∈ applications ctx clock ts n ↔ Applies ctx clock ts n a.operator a.value a.cursor := by
  induction ts generalizing n with
  | nil =>
    constructor
    · intro h
      cases h
    · intro h
      cases h
  | cons t ts ih =>
    rw [applications, List.mem_append]
    constructor
    · rintro (h | h)
      · cases hb : t.evaluated? with
        | none =>
          rw [hb] at h
          cases h
        | some b =>
          obtain ⟨v, m, hv⟩ := Body.run_baseValue ctx clock b.base n
          rw [hb, Option.map_some, Option.getD_some, Body.applications, hv] at h
          exact .first hb hv (Operator.mem_applications_iff.1 h)
      · cases hrun : (t.output ctx clock).run n with
        | ok x m =>
          rw [hrun] at h
          exact .later hrun (ih.1 h)
        | error e m =>
          rw [hrun] at h
          cases h
    · intro h
      cases h with
      | first hb hv h =>
        rw [hb, Option.map_some, Option.getD_some, Body.applications, hv]
        exact .inl (Operator.mem_applications_iff.2 h)
      | later hrun h =>
        rw [hrun]
        exact .inr (ih.2 h)

theorem took_output [Packages] (ctx : Context) (clock : Calendar.Moment) (t : Token) (n : Nat) :
    Took n (Reference.takenAll t.references)
      (((t.evaluated?.map (·.applications ctx clock n)).getD []).countP (·.misses ctx))
      ((t.output ctx clock).run n) := by
  rw [references]
  cases hb : t.evaluated? with
  | none =>
    obtain ⟨x, hx⟩ := output_of_not_evaluated hb ctx clock
    rw [hx]
    exact Takes.pure x n
  | some b =>
    obtain ⟨f, hf⟩ := output_of_evaluated? hb ctx clock
    rw [hf]
    exact (b.took_evaluate ctx clock n).map f

/-- By induction on the tokens. -/
theorem took_runAll [Packages] (ctx : Context) (clock : Calendar.Moment) (ts : List Token)
    (block : Block)
    (n : Nat) :
    Took n (Reference.takenAll (ts.flatMap references))
      ((applications ctx clock ts n).countP (·.misses ctx))
      ((runAll ctx clock ts block).run n) := by
  induction ts generalizing block n with
  | nil => exact Takes.pure block n
  | cons t ts ih =>
    rw [runAll, List.flatMap_cons, Reference.takenAll_append, applications, List.countP_append]
    obtain ⟨f, hf⟩ := run_eq_map_output ctx clock t block
    rw [hf]
    refine ((took_output ctx clock t n).map f).bind fun next m hnext => ?_
    obtain ⟨x, hx, -⟩ := run_map_eq_ok_iff.1 hnext
    rw [hx]
    exact ih next m

end Token

/-- The cursor moves forward all through a call: from operand to operand, from operator to operator
and from token to token. -/
structure NeverBack [Packages] (ctx : Context) (clock : Calendar.Moment) : Prop where
  references (r : Reference) : Forward (r.resolveText ctx) ∧ Forward (r.resolveInteger ctx)
  bases (b : Base) : Forward (Body.baseValue ctx clock b)
  operators (os os' : List Operator) (v : Value) (n : Nat) :
    (Operator.applyAll ctx os v).endOf n ≤ (Operator.applyAll ctx (os ++ os') v).endOf n
  tokens (ts ts' : List Token) (block : Block) (n : Nat) :
    (Token.runAll ctx clock ts block).endOf n ≤ (Token.runAll ctx clock (ts ++ ts') block).endOf n

/-- Fixed references and tokens that are kept as they are written do not move the cursor. -/
structure KeepsStill [Packages] (ctx : Context) (clock : Calendar.Moment) : Prop where
  references (i : Int) :
    Still ((Reference.fixed i).resolveText ctx) ∧ Still ((Reference.fixed i).resolveInteger ctx)
  bases (i : Nat) : Still (Body.baseValue ctx clock (.position i))
  verbatim (b : Body) (block : Block) : Still ((Token.replacement .verbatim b).run ctx clock block)

theorem neverBack [Packages] (ctx : Context) (clock : Calendar.Moment) : NeverBack ctx clock where
  references r := ⟨(r.takes_resolveText ctx).forward, (r.takes_resolveInteger ctx).forward⟩
  bases b := (Body.takes_baseValue ctx clock b).forward
  operators os os' v n := by
    rw [Operator.applyAll_append]
    exact endOf_le_endOf_bind _ (fun w m => (Operator.took_applyAll ctx os' w m).le_endOf) n
  tokens ts ts' block n := by
    rw [Token.runAll_append]
    exact endOf_le_endOf_bind _ (fun next m => (Token.took_runAll ctx clock ts' next m).le_endOf) n

theorem keepsStill [Packages] (ctx : Context) (clock : Calendar.Moment) : KeepsStill ctx clock where
  references i :=
    ⟨((Reference.fixed i).takes_resolveText ctx).still,
      ((Reference.fixed i).takes_resolveInteger ctx).still⟩
  bases i := (Body.takes_baseValue ctx clock (.position i)).still
  verbatim b block := by
    obtain ⟨f, hf⟩ := Token.run_eq_map_output ctx clock (.replacement .verbatim b) block
    obtain ⟨x, hx⟩ := Token.output_of_not_evaluated (t := .replacement .verbatim b) rfl ctx clock
    rw [hf, hx]
    exact ((Takes.pure x).map f).still

/-- The position of the cursor behind an expansion, also one that fails. -/
def finalPosition [Packages] (settings : Settings) (clock : Calendar.Moment) (template : Text)
    (parameters : List Value) : Nat :=
  (Token.runAll (settings.context parameters) clock (scan template).tokens .start).endOf 0

/-- How often an expansion applies an extraction that misses its group. -/
def missedGroups [Packages] (settings : Settings) (clock : Calendar.Moment) (template : Text)
    (parameters : List Value) : Nat :=
  let ctx := settings.context parameters
  (Token.applications ctx clock (scan template).tokens 0).countP (·.misses ctx)

theorem finalPosition_le [Packages] (settings : Settings) (clock : Calendar.Moment)
    (template : Text)
    (parameters : List Value) :
    finalPosition settings clock template parameters ≤
      Reference.takenAll ((scan template).tokens.flatMap Token.references) := by
  have htook :=
    Token.took_runAll (settings.context parameters) clock (scan template).tokens .start 0
  rw [← Nat.zero_add (Reference.takenAll _)]
  exact htook.endOf_le

section

variable {template : Text} {settings : Settings} {clock : Calendar.Moment}
variable {parameters : List Value} {text : Text}

theorem finalPosition_add_missedGroups [Packages] (hscan : (scan template).fault = none)
    (h : expand settings clock template parameters = .ok text) :
    finalPosition settings clock template parameters +
        missedGroups settings clock template parameters =
      Reference.takenAll ((scan template).tokens.flatMap Token.references) := by
  rw [expand_eq_outcome hscan] at h
  obtain ⟨block, m, hrun, -⟩ := outcome_map_eq_ok_iff.1 h
  have htook :=
    Token.took_runAll (settings.context parameters) clock (scan template).tokens .start 0
  rw [← Nat.zero_add (Reference.takenAll _)]
  exact htook.endOf_add hrun

theorem missedGroups_eq_zero [Packages]
    (h : ∀ t ∈ (scan template).tokens, ∀ b, t.evaluated? = some b →
      ∀ pattern, Operator.extract pattern .next ∉ b.operators) :
    missedGroups settings clock template parameters = 0 := by
  refine List.countP_eq_zero.2 fun a ha hmiss => ?_
  obtain ⟨t, ht, b, hb, ho⟩ := (Token.mem_applications_iff.1 ha).exists_mem
  unfold Operator.Application.misses at hmiss
  split at hmiss
  · rename_i pattern hpattern
    rw [hpattern] at ho
    exact h t ht b hb pattern ho
  · cases hmiss

theorem finalPosition_eq [Packages] (hscan : (scan template).fault = none)
    (hgroup : ∀ t ∈ (scan template).tokens, ∀ b, t.evaluated? = some b →
      ∀ pattern, Operator.extract pattern .next ∉ b.operators)
    (h : expand settings clock template parameters = .ok text) :
    finalPosition settings clock template parameters =
      Reference.takenAll ((scan template).tokens.flatMap Token.references) := by
  rw [← finalPosition_add_missedGroups hscan h, missedGroups_eq_zero hgroup, Nat.add_zero]

end

/-- An expansion takes the parameters that the report counts, but for the groups that it misses, and
at most as many if it fails. -/
theorem position_of_expansion [Packages] {template : Text} (hscan : (scan template).fault = none) :
    (∀ s now, ∃ report, validate .permissive s now template = .ok report) ∧
    ∀ level s now report, validate level s now template = .ok report →
      ∀ settings clock parameters,
        (∀ text, expand settings clock template parameters = .ok text →
          finalPosition settings clock template parameters +
            missedGroups settings clock template parameters = report.sequentialReferences) ∧
        (∀ e, expand settings clock template parameters = .error e →
          finalPosition settings clock template parameters ≤ report.sequentialReferences) ∧
        NeverBack (settings.context parameters) clock ∧
        KeepsStill (settings.context parameters) clock := by
  refine ⟨exists_validate_permissive hscan, ?_⟩
  intro level s now report hreport settings clock parameters
  rw [(counts_validate hreport).1]
  exact ⟨fun text htext => finalPosition_add_missedGroups hscan htext,
    fun e _ => finalPosition_le settings clock template parameters, neverBack _ _, keepsStill _ _⟩

/-- A pattern without a match: its group is the next parameter and is left to the token behind. -/
theorem position_of_missed_group :
    missedGroups {} ⟨0, some 0⟩ "{[/x/{}]}{}".toText [.text ['a'], .text ['b']] = 1 ∧
      finalPosition {} ⟨0, some 0⟩ "{[/x/{}]}{}".toText [.text ['a'], .text ['b']] + 1 = 3 := by
  have hscan : (scan "{[/x/{}]}{}".toText).fault = none := by decide +kernel
  have hcount : (validate .permissive {} ⟨0, some 0⟩ "{[/x/{}]}{}".toText).map
      (·.sequentialReferences) =
      .ok 3 := by decide +kernel
  have hmissed :
      missedGroups {} ⟨0, some 0⟩ "{[/x/{}]}{}".toText [.text ['a'], .text ['b']] = 1 := by
    decide +kernel
  obtain ⟨hreports, hposition⟩ := position_of_expansion hscan
  obtain ⟨report, hreport⟩ := hreports {} ⟨0, some 0⟩
  obtain ⟨hok, -⟩ := hposition .permissive {} _ report hreport {} ⟨0, some 0⟩
    [.text ['a'], .text ['b']]
  have htaken := hok ['b'] (by decide +kernel)
  rw [hreport] at hcount
  have hthree : report.sequentialReferences = 3 := Except.ok.inj hcount
  rw [hmissed, hthree] at htaken
  exact ⟨hmissed, htaken⟩

end BraceTemplate
