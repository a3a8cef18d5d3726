import BraceTemplate.Proofs.FormatFaults
import BraceTemplate.Proofs.Placement
import BraceTemplate.Proofs.References

/-!
# BraceTemplate.Proofs.ExpansionFaults

The expansion errors that a run can end in, read off the operators of its tokens
(`Operator.Raises`, `Token.among_runAll`). No operator that was read from a template is without an
operand that it needs, and with its operands an operator never ends in the fault of a missing one.
-/

namespace BraceTemplate

/-! ## Operators -/

theorem Calendar.resolveZone_eq_error {name default : Option Text} {e : ExpansionError}
    (h : resolveZone name default = .error e) :
    ∃ n, e = .unknownZone n ∧ n ≠ [] ∧ Zone.find? n = none ∧
      (name = some n ∨ default = some n) := by
  unfold resolveZone at h
  -- the table behind the zones must not be unfolded
  obtain ⟨find, hfind⟩ : ∃ find, find = Zone.find? := ⟨_, rfl⟩
  rw [← hfind] at h ⊢
  simp only at h
  split at h
  · cases h
  · rename_i n hn
    split at h
    · cases h
    · rename_i hnone
      cases h
      rcases Option.or_eq_some_iff.1 hn with hname | ⟨-, hdefault⟩
      · obtain ⟨hname, hne⟩ := Option.filter_eq_some_iff.1 hname
        exact ⟨n, rfl, by simpa using hne, hnone, .inl hname⟩
      · obtain ⟨hdefault, hne⟩ := Option.filter_eq_some_iff.1 hdefault
        exact ⟨n, rfl, by simpa using hne, hnone, .inr hdefault⟩

variable {P : ExpansionError → Prop}

theorem Value.among_ofFault_toText (v : Value) :
    Evaluation.Among P (Evaluation.ofFault v.toText) :=
  .ofFault v.among_toText (by decide)

namespace Reference

theorem among_valueOrEmpty (ctx : Context) (r : Reference) :
    Evaluation.Among P (r.valueOrEmpty ctx) := by
  intro n g m h
  cases r with
  | literal t => cases h
  | next => cases h
  | fixed i => cases h

theorem among_resolveText (ctx : Context) (r : Reference) :
    Evaluation.Among P (r.resolveText ctx) := by
  cases r with
  | literal t => exact .pure _
  | next =>
    rw [resolveText_of_isIndirect rfl]
    exact .bind (among_valueOrEmpty ctx next) fun v _ _ _ =>
      .map (Value.among_ofFault_toText v) _
  | fixed i =>
    rw [resolveText_of_isIndirect rfl]
    exact .bind (among_valueOrEmpty ctx (fixed i)) fun v _ _ _ =>
      .map (Value.among_ofFault_toText v) _

/-- The expansion errors of a bound. -/
def IsBoundError (e : ExpansionError) : Prop :=
  (∃ got, e = .notIntegerLiteral got) ∨ ∃ got, e = .notIntegerReference got

theorem among_resolveInteger (ctx : Context) (r : Reference) :
    Evaluation.Among IsBoundError
      (r.resolveInteger ctx) := by
  have hvalue : ∀ v : Value, Failure.Among IsBoundError v.toInteger := fun v =>
    (Value.among_toInteger v).mono fun _ => .inr
  cases r with
  | literal t =>
    cases t with
    | none => exact .fail (.inl ⟨_, rfl⟩)
    | some s =>
      simp only [resolveInteger]
      split
      · exact .ofFault (Number.among_readInteger s) (by decide)
      · exact .fail (.inl ⟨_, rfl⟩)
  | next =>
    rw [resolveInteger_of_isIndirect rfl]
    exact .bind (among_valueOrEmpty ctx next) fun v _ _ _ => .ofExcept (hvalue v)
  | fixed i =>
    rw [resolveInteger_of_isIndirect rfl]
    exact .bind (among_valueOrEmpty ctx (fixed i)) fun v _ _ _ => .ofExcept (hvalue v)

theorem ne_none_of_resolveText {ctx : Context} {r : Reference} (hr : r ≠ .literal none)
    {t : Option Text} {n m : Nat} (h : (r.resolveText ctx).run n = .ok t m) : t ≠ none := by
  cases hindirect : r.isIndirect with
  | false =>
    cases r with
    | literal s =>
      cases h
      exact fun hs => hr (congrArg literal hs)
    | next => cases hindirect
    | fixed i => cases hindirect
  | true =>
    rw [resolveText_of_isIndirect hindirect, Evaluation.run_bind] at h
    split at h
    · rw [Evaluation.run_map] at h
      split at h
      · cases h
        exact Option.some_ne_none _
      · cases h
    · cases h

end Reference

namespace Operator

/-- The expansion errors that an operator can end in. -/
def Raises : Operator → ExpansionError → Prop
  | urlDecode, .incompleteEscape _ _ => True
  | slice _ _, .notIntegerLiteral _ => True
  | slice _ _, .notIntegerReference _ => True
  | sliceLength _ _, .notIntegerLiteral _ => True
  | sliceLength _ _, .notIntegerReference _ => True
  | extract _ _, .invalidExtraction _ _ _ => True
  | printf _, .conversion _ => True
  | date _ _, .unknownZone _ => True
  | date _ _, .unknownDateLetter _ _ => True
  | date _ _, .invalidDatePattern _ => True
  | _, _ => False

/-- Whether the operator has the operand that it cannot do without. -/
def HasOperands : Operator → Prop
  | extract pattern _ => pattern ≠ .literal none
  | printf specifier => specifier ≠ .literal none
  | _ => True

theorem among_onText (f : Text → Text) (v : Value) :
    Evaluation.Among P (onText f v) :=
  .bind (Value.among_ofFault_toText v) fun _ _ _ _ => .pure _

theorem among_encodeText {encode : Text → Except Fault Text}
    (h : ∀ t, Fault.Among [.loneSurrogate] (encode t)) (v : Value) :
    Evaluation.Among P (encodeText encode v) :=
  .bind (Value.among_ofFault_toText v) fun t _ _ _ => .ofFault (h t) (by decide)

theorem Codec.Percent.among_encode (t : Text) :
    Fault.Among [.loneSurrogate] (Codec.Percent.encode t) := by
  unfold Codec.Percent.encode
  split
  · exact .ok _
  · exact .fault (List.mem_singleton_self _)

theorem Codec.Base64.among_encode (t : Text) :
    Fault.Among [.loneSurrogate] (Codec.Base64.encode t) := by
  unfold Codec.Base64.encode Codec.Utf8.encode
  split
  · exact .ok _
  · exact .fault (List.mem_singleton_self _)

theorem among_requireText {t : Option Text} (h : t ≠ none) :
    Evaluation.Among P (requireText t) := by
  cases t with
  | none => exact absurd rfl h
  | some s => exact .pure _

theorem among_groupKey (t : Text) : Fault.Among [.tooManyDigits] (groupKey t) := by
  unfold groupKey
  split
  · split
    · exact .ok _
    · rename_i h
      exact .error (Number.among_readDigits _) h
  · exact .ok _

theorem among_applyExtract (ctx : Context) {pattern : Reference} (h : pattern ≠ .literal none)
    (group : Reference) (v : Value) :
    Evaluation.Among (extract pattern group).Raises
      (applyExtract ctx pattern group v) := by
  refine .bind (Value.among_ofFault_toText v) fun text _ _ _ => ?_
  refine .bind (pattern.among_resolveText ctx) fun written _ _ hwritten => ?_
  refine .bind (among_requireText (Reference.ne_none_of_resolveText h hwritten)) fun t _ _ _ => ?_
  cases hcompile : Packages.engine.compile t with
  | error e =>
    cases e with
    | invalid reason position => exact .throw trivial
    | fault f =>
      obtain rfl := Pattern.eq_incompatibleFlags_of_readWith hcompile
      exact .throw (show Fault.IsOrdinary .incompatibleFlags by decide)
  | ok compiled =>
    simp only
    cases Packages.engine.search compiled text with
    | none => exact .pure _
    | some found =>
      refine .bind (group.among_resolveText ctx) fun name _ _ _ => ?_
      exact .bind (.ofFault (among_groupKey _) (by decide)) fun _ _ _ _ => .pure _

theorem raises_date_of_isPatternError {pattern zone : Reference} {written : Text}
    {e : ExpansionError} (h : Calendar.IsPatternError written e) :
    (date pattern zone).Raises e := by
  rcases h with rfl | ⟨letter, rfl⟩
  · trivial
  · trivial

theorem among_applyDate (ctx : Context) (pattern zone : Reference) (v : Value) :
    Evaluation.Among (date pattern zone).Raises (applyDate ctx pattern zone v) := by
  refine .bind (pattern.among_resolveText ctx) fun written _ _ _ => ?_
  refine .bind (zone.among_resolveText ctx) fun name _ _ _ => ?_
  cases hzone : Calendar.resolveZone name ctx.defaultZone with
  | error e =>
    obtain ⟨n, rfl, -⟩ := Calendar.resolveZone_eq_error hzone
    exact .fail trivial
  | ok z =>
    refine .bind (.ofFault (Value.among_toMoment? v) (by decide)) fun moment _ _ _ => ?_
    cases moment with
    | none => exact .pure _
    | some m =>
      have htext := Calendar.among_formatDate m
      exact .ofExcept ((htext _ z ctx.locale).mono fun _ => raises_date_of_isPatternError)

theorem raises_of_decode {t : Text} {e : ExpansionError}
    (h : Codec.Percent.decode t = .error e) : urlDecode.Raises e := by
  unfold Codec.Percent.decode at h
  split at h
  · cases h
    trivial
  · cases h

theorem raises_slice_of_isBoundError {start stop : Reference} {e : ExpansionError}
    (h : Reference.IsBoundError e) :
    (slice start stop).Raises e ∧ (sliceLength start stop).Raises e := by
  rcases h with ⟨got, rfl⟩ | ⟨got, rfl⟩
  · exact ⟨trivial, trivial⟩
  · exact ⟨trivial, trivial⟩

theorem among_applyText (ctx : Context) {o : Operator} (h : o.HasOperands) (v : Value) :
    Evaluation.Among o.Raises (o.applyText ctx v) := by
  cases o with
  | trim => exact among_onText _ v
  | lower => exact among_onText _ v
  | upper => exact among_onText _ v
  | urlEncode => exact among_encodeText Codec.Percent.among_encode v
  | base64Encode => exact among_encodeText Codec.Base64.among_encode v
  | base64Decode => exact among_onText _ v
  | urlDecode =>
    refine .bind (Value.among_ofFault_toText v) fun t _ _ _ => ?_
    cases hdecode : Codec.Percent.decode t with
    | ok decoded => exact .pure _
    | error e => exact .fail (raises_of_decode hdecode)
  | slice start stop =>
    have hbound : ∀ r : Reference, Evaluation.Among (slice start stop).Raises
        (r.resolveInteger ctx) := fun r =>
      (r.among_resolveInteger ctx).mono fun _ h => (raises_slice_of_isBoundError h).1
    refine .bind (Value.among_ofFault_toText v) fun text _ _ _ => ?_
    refine .bind (hbound start) fun a _ _ _ => ?_
    exact .bind (hbound stop) fun b _ _ _ => .pure _
  | sliceLength start length =>
    have hbound : ∀ r : Reference, Evaluation.Among (sliceLength start length).Raises
        (r.resolveInteger ctx) := fun r =>
      (r.among_resolveInteger ctx).mono fun _ h => (raises_slice_of_isBoundError h).2
    refine .bind (Value.among_ofFault_toText v) fun text _ _ _ => ?_
    refine .bind (hbound start) fun a _ _ _ => ?_
    exact .bind (hbound length) fun b _ _ _ => .pure _
  | extract pattern group => exact among_applyExtract ctx h group v
  | printf specifier =>
    refine .bind (specifier.among_resolveText ctx) fun spec _ _ hspec => ?_
    refine .bind (among_requireText (Reference.ne_none_of_resolveText h hspec)) fun t _ _ _ => ?_
    refine .ofExcept ((Printf.among_format t v).mono ?_)
    rintro e ⟨cause, rfl⟩
    trivial
  | date pattern zone => exact among_applyDate ctx pattern zone v

theorem among_applyAll (ctx : Context) {os : List Operator} (h : ∀ o ∈ os, o.HasOperands)
    (v : Value) :
    Evaluation.Among (fun e => ∃ o ∈ os, o.Raises e) (applyAll ctx os v) := by
  induction os generalizing v with
  | nil => exact .pure _
  | cons o os ih =>
    have hhead : Evaluation.Among o.Raises (o.apply ctx v) :=
      .bind (among_applyText ctx (h o List.mem_cons_self) v) fun _ _ _ _ => .pure _
    have htail := ih fun o' ho => h o' (List.mem_cons_of_mem o ho)
    refine .bind (hhead.mono fun e he => ⟨o, List.mem_cons_self, he⟩) fun w _ _ _ => ?_
    refine (htail w).mono ?_
    rintro e ⟨o', ho', he⟩
    exact ⟨o', List.mem_cons_of_mem o ho', he⟩

end Operator

/-! ## Templates -/

namespace Reference

theorem ne_none_of_parse {t : Text} {r : Reference} (h : parse t = .ok r) : r ≠ .literal none := by
  unfold parse at h
  split at h
  · cases h
    simp
  · split at h
    · cases h
    · cases h
      unfold ofPosition
      split
      · simp
      · simp

end Reference

namespace Directive

theorem hasOperands_of_codecOperator? {word : Text} {o : Operator}
    (h : codecOperator? word = some o) : o.HasOperands := by
  unfold codecOperator? at h
  split at h
  all_goals
    cases h
  all_goals trivial

theorem parses_of_ofOperands {operator : Reference → Reference → Operator} {first second : Text}
    {s : Step} (h : ofOperands operator first second = .ok s) :
    ∃ a b, Reference.parse first = .ok a ∧ Reference.parse second = .ok b ∧
      s = ⟨none, some (operator a b)⟩ := by
  unfold ofOperands at h
  split at h
  · cases h
  · rename_i a ha
    split at h
    · cases h
    · rename_i b hb
      cases h
      exact ⟨a, b, ha, hb, rfl⟩

theorem hasOperands_of_dateOperator {format zone : Option Text} {o : Operator}
    (h : dateOperator format zone = .ok o) : o.HasOperands := by
  simp only [dateOperator] at h
  split at h
  · cases h
  · split at h
    · cases h
      trivial
    · split at h
      · cases h
      · cases h
        trivial

theorem hasOperands_of_compile {d : Directive} {s : Step} (h : d.compile = .ok s) {o : Operator}
    (ho : s.operator = some o) : o.HasOperands := by
  cases d with
  | position digits =>
    simp only [compile] at h
    split at h
    · cases h
    · cases h
      cases ho
  | trim word => cases h; cases ho; trivial
  | lower word => cases h; cases ho; trivial
  | upper word => cases h; cases ho; trivial
  | codec word =>
    simp only [compile] at h
    split at h
    · rename_i hcodec
      cases h
      cases ho
      exact hasOperands_of_codecOperator? hcodec
    · cases h
  | substring start bound =>
    cases bound with
    | none =>
      simp only [compile] at h
      split at h
      · cases h
      · cases h
        cases ho
        trivial
    | some markAndBound =>
      obtain ⟨a, b, -, -, rfl⟩ := parses_of_ofOperands h
      cases ho
      split
      · trivial
      · trivial
  | extract pattern group =>
    obtain ⟨a, b, ha, -, rfl⟩ := parses_of_ofOperands h
    cases ho
    exact Reference.ne_none_of_parse ha
  | printf specifier =>
    cases h
    cases ho
    simp [Operator.HasOperands]
  | date isClock word detail =>
    simp only [compile] at h
    split at h
    · cases h
    · rename_i o' hdate
      cases h
      cases ho
      exact hasOperands_of_dateOperator hdate

theorem exists_mem_of_compileAll {ds : List Directive} {ss : List Step}
    (h : compileAll ds = .ok ss) {s : Step} (hs : s ∈ ss) : ∃ d ∈ ds, d.compile = .ok s := by
  induction ds generalizing ss with
  | nil =>
    cases h
    cases hs
  | cons d ds ih =>
    rw [compileAll] at h
    split at h
    · cases h
    · rename_i first hfirst
      split at h
      · cases h
      · rename_i rest hrest
        cases h
        rcases List.mem_cons.1 hs with rfl | hs
        · exact ⟨d, List.mem_cons_self, hfirst⟩
        · obtain ⟨d', hd', hcompile⟩ := ih hrest hs
          exact ⟨d', List.mem_cons_of_mem d hd', hcompile⟩

end Directive

namespace Body

/-- The expansion errors of a body are those of its operators. -/
def Raises (b : Body) (e : ExpansionError) : Prop := ∃ o ∈ b.operators, o.Raises e

theorem hasOperands_of_compile {raw : Text} {b : Body} (h : compile raw = .ok (some b))
    {o : Operator} (ho : o ∈ b.operators) : o.HasOperands := by
  have hparse := compile_eq_some_iff_parse (s := []).1 h
  obtain ⟨ds, steps, -, hsteps, rfl⟩ := parse_append_eq_some_iff.1 hparse
  obtain ⟨s, hs, hso⟩ := List.mem_filterMap.1 ho
  obtain ⟨d, -, hcompile⟩ := Directive.exists_mem_of_compileAll hsteps hs
  exact Directive.hasOperands_of_compile hcompile hso

theorem among_baseValue (ctx : Context) (clock : Calendar.Moment) (b : Base) :
    Evaluation.Among P (baseValue ctx clock b) := by
  intro n g m h
  cases b with
  | next => cases h
  | clock => cases h
  | position i => cases h

theorem among_evaluate (ctx : Context) (clock : Calendar.Moment) {b : Body}
    (h : ∀ o ∈ b.operators, o.HasOperands) :
    Evaluation.Among b.Raises (b.evaluate ctx clock) := by
  refine .bind (among_baseValue ctx clock b.base) fun v _ _ _ => ?_
  exact .bind (Operator.among_applyAll ctx h v) fun w _ _ _ => Value.among_ofFault_toText w

end Body

namespace Token

/-- The expansion errors of a token are those of its operators, if it is evaluated. -/
def Raises (t : Token) (e : ExpansionError) : Prop := ∃ b, t.evaluated? = some b ∧ b.Raises e

theorem among_replace (ctx : Context) (clock : Calendar.Moment) {e : Escape} {b : Body}
    (h : ∀ o ∈ b.operators, o.HasOperands) :
    Evaluation.Among (replacement e b).Raises (replace ctx clock e b) := by
  have hevaluate := Body.among_evaluate ctx clock h
  cases e with
  | plain => exact hevaluate.mono fun e he => ⟨b, rfl, he⟩
  | verbatim => exact .pure _
  | backslashed =>
    exact .bind (hevaluate.mono fun e he => ⟨b, rfl, he⟩) fun _ _ _ _ => .pure _

theorem among_run (ctx : Context) (clock : Calendar.Moment) {t : Token}
    (h : ∀ e b, t = .replacement e b → ∀ o ∈ b.operators, o.HasOperands) (block : Block) :
    Evaluation.Among t.Raises (t.run ctx clock block) := by
  cases t with
  | literal text => exact .pure _
  | blockOpen => exact .pure _
  | blockClose => exact .pure _
  | replacement e b => exact .bind (among_replace ctx clock (h e b rfl)) fun _ _ _ _ => .pure _

/-- By induction on the tokens. -/
theorem among_runAll (ctx : Context) (clock : Calendar.Moment) {ts : List Token}
    (h : ∀ e b, .replacement e b ∈ ts → ∀ o ∈ b.operators, o.HasOperands) (block : Block) :
    Evaluation.Among (fun e => ∃ t ∈ ts, t.Raises e) (runAll ctx clock ts block) := by
  induction ts generalizing block with
  | nil => exact .pure _
  | cons t ts ih =>
    have hhead := among_run ctx clock (fun e b ht => h e b (ht ▸ List.mem_cons_self)) block
    have htail := ih fun e b hmem => h e b (List.mem_cons_of_mem t hmem)
    refine .bind (hhead.mono fun e he => ⟨t, List.mem_cons_self, he⟩) fun next _ _ _ => ?_
    refine (htail next).mono ?_
    rintro e ⟨u, hu, he⟩
    exact ⟨u, List.mem_cons_of_mem t hu, he⟩

end Token

theorem hasOperands_of_scan {template : Text} {t : Token} (ht : t ∈ (scan template).tokens)
    {b : Body} (hb : t.evaluated? = some b) {o : Operator} (ho : o ∈ b.operators) :
    o.HasOperands := by
  obtain ⟨e, -, rfl⟩ := Token.exists_replacement hb
  exact Body.hasOperands_of_compile (Scan.compile_raw_of_mem_scanFrom ht) ho

end BraceTemplate
