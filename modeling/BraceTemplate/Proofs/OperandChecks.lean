import BraceTemplate.Proofs.References

/-!
# BraceTemplate.Proofs.OperandChecks

What a report finds wrong with operands. An error of a standard report is the problem of one
operator of a token that is evaluated (`checkOperator_of_mem_errors`), and without an error every
such operator was checked (`checkOperator_of_errors_eq_nil`). A report is left out only where the
check of a token's operators faults (`exists_causes_of_validate`).
-/

namespace BraceTemplate

namespace Report

theorem mem_checkOperators_iff [Packages] {now : Calendar.Moment} {locale : Text}
    {os : List Operator}
    {causes : List ExpansionError}
    (h : checkOperators now locale os = .ok causes) (cause : ExpansionError) :
    cause ∈ causes ↔ ∃ o ∈ os, checkOperator now locale o = .ok (some cause) := by
  induction os generalizing causes with
  | nil =>
    cases h
    simp
  | cons o os ih =>
    unfold checkOperators at h
    split at h
    · cases h
    · rename_i first hfirst
      split at h
      · cases h
      · rename_i rest hrest
        cases h
        simp [ih hrest, hfirst]

theorem exists_checkOperator [Packages] {now : Calendar.Moment} {locale : Text} {os : List Operator}
    {causes : List ExpansionError}
    (h : checkOperators now locale os = .ok causes) {o : Operator} (ho : o ∈ os) :
    ∃ found, checkOperator now locale o = .ok found := by
  induction os generalizing causes with
  | nil => cases ho
  | cons first os ih =>
    unfold checkOperators at h
    split at h
    · cases h
    · rename_i found hfound
      split at h
      · cases h
      · rename_i rest hrest
        rcases List.mem_cons.1 ho with rfl | ho
        · exact ⟨found, hfound⟩
        · exact ih hrest ho

/-- What is wrong with the operators of a token, if it is evaluated. -/
def causes [Packages] (now : Calendar.Moment) (locale : Text) (t : Token) : Except Fault
    (List ExpansionError) :=
  match t.evaluated? with
  | none => .ok []
  | some b => checkOperators now locale b.operators

theorem errors_pass (w : Walk) (t : Token) (isOpen : Bool) :
    (w.pass t isOpen).report.errors = w.report.errors := by
  unfold Walk.pass
  split
  · rfl
  · rfl

/-- Two reports that differ in their counts at most. -/
structure SameNotes (r r' : Report) : Prop where
  errors : r'.errors = r.errors
  warnings : r'.warnings = r.warnings
  tokens : r'.tokens = r.tokens

namespace SameNotes

theorem trans {r r' r'' : Report} (h : SameNotes r r') (h' : SameNotes r' r'') : SameNotes r r'' :=
  ⟨h'.errors.trans h.errors, h'.warnings.trans h.warnings, h'.tokens.trans h.tokens⟩

theorem countReference (r : Report) (ref : Reference) : SameNotes r (r.countReference ref) := by
  cases ref with
  | literal t => exact ⟨rfl, rfl, rfl⟩
  | next => exact ⟨rfl, rfl, rfl⟩
  | fixed n => exact ⟨rfl, rfl, rfl⟩

theorem countReferences (r : Report) (refs : List Reference) :
    SameNotes r (refs.foldl Report.countReference r) := by
  induction refs generalizing r with
  | nil => exact ⟨rfl, rfl, rfl⟩
  | cons ref refs ih => exact (countReference r ref).trans (ih _)

theorem countBody (r : Report) (b : Body) : SameNotes r (r.countBody b) := by
  have hbase : SameNotes r (r.countBase b.base) := by
    cases b.base with
    | next => exact ⟨rfl, rfl, rfl⟩
    | clock => exact ⟨rfl, rfl, rfl⟩
    | position n => exact ⟨rfl, rfl, rfl⟩
  exact hbase.trans (countReferences _ _)

end SameNotes

/-- A token adds the problems of its operators to the errors, one case per token. -/
theorem errors_visit [Packages] {now : Calendar.Moment} {locale : Text} {w w' : Walk} {t : Token}
    (h : visit .standard now locale w t = .ok w') :
    ∃ found, causes now locale t = .ok found ∧
      w'.report.errors = w.report.errors ++ found.map (.operand t.source w.offset) := by
  cases t with
  | literal text =>
    cases h
    exact ⟨[], rfl, by simp [errors_pass, Walk.warn]⟩
  | blockOpen =>
    cases h
    refine ⟨[], rfl, ?_⟩
    rw [errors_pass]
    split
    · simp [Walk.warn]
    · simp
  | blockClose =>
    cases h
    refine ⟨[], rfl, ?_⟩
    rw [errors_pass]
    split
    · simp
    · simp [Walk.warn]
  | replacement e b =>
    simp only [visit] at h
    split at h
    · rename_i he
      cases h
      subst he
      exact ⟨[], rfl, by simp [errors_pass]⟩
    · rename_i he
      rw [if_neg (by decide)] at h
      split at h
      · cases h
      · rename_i found hfound
        cases h
        refine ⟨found, ?_, ?_⟩
        · rw [causes, Token.evaluated?_replacement he]
          exact hfound
        · rw [errors_pass, (SameNotes.countBody w.report b).errors]

theorem causes_of_visit [Packages] {level : ReportLevel} {now : Calendar.Moment} {locale : Text}
    {w : Walk}
    {t : Token} {f : Fault}
    (h : visit level now locale w t = .error f) : causes now locale t = .error f := by
  cases t with
  | literal text => cases h
  | blockOpen => cases h
  | blockClose => cases h
  | replacement e b =>
    simp only [visit] at h
    split at h
    · cases h
    · rename_i he
      split at h
      · cases h
      · split at h
        · rename_i hfault
          cases h
          rw [causes, Token.evaluated?_replacement he]
          exact hfault
        · cases h

theorem visitAll_cons_eq_ok [Packages] {level : ReportLevel} {now : Calendar.Moment}
    {locale : Text}
    {w w' : Walk} {t : Token}
    {ts : List Token} (h : visitAll level now locale w (t :: ts) = .ok w') :
    ∃ v, visit level now locale w t = .ok v ∧ visitAll level now locale v ts = .ok w' := by
  unfold visitAll at h
  split at h
  · cases h
  · rename_i v hv
    exact ⟨v, hv, h⟩

theorem errors_subset_visitAll [Packages] {now : Calendar.Moment} {locale : Text} {w w' : Walk}
    {ts : List Token}
    (h : visitAll .standard now locale w ts = .ok w') : w.report.errors ⊆ w'.report.errors := by
  induction ts generalizing w with
  | nil =>
    cases h
    exact List.Subset.refl _
  | cons t ts ih =>
    obtain ⟨v, hv, hrest⟩ := visitAll_cons_eq_ok h
    obtain ⟨found, -, herrors⟩ := errors_visit hv
    refine List.Subset.trans ?_ (ih hrest)
    rw [herrors]
    exact List.subset_append_left _ _

theorem problem_of_visitAll [Packages] {now : Calendar.Moment} {locale : Text} {w w' : Walk}
    {ts : List Token}
    (h : visitAll .standard now locale w ts = .ok w') {p : Problem} (hp : p ∈ w'.report.errors) :
    p ∈ w.report.errors ∨ ∃ t ∈ ts, ∃ found, causes now locale t = .ok found ∧
      ∃ cause ∈ found, ∃ offset, p = .operand t.source offset cause := by
  induction ts generalizing w with
  | nil =>
    cases h
    exact .inl hp
  | cons t ts ih =>
    obtain ⟨v, hv, hrest⟩ := visitAll_cons_eq_ok h
    obtain ⟨found, hfound, herrors⟩ := errors_visit hv
    rcases ih hrest with hp | ⟨u, hu, hcause⟩
    · rw [herrors, List.mem_append] at hp
      rcases hp with hp | hp
      · exact .inl hp
      · obtain ⟨cause, hcause, rfl⟩ := List.mem_map.1 hp
        exact .inr ⟨t, List.mem_cons_self, found, hfound, cause, hcause, w.offset, rfl⟩
    · exact .inr ⟨u, List.mem_cons_of_mem _ hu, hcause⟩

/-- All problems of the tokens are errors. -/
theorem reported_visitAll [Packages] {now : Calendar.Moment} {locale : Text} {w w' : Walk}
    {ts : List Token}
    (h : visitAll .standard now locale w ts = .ok w') {t : Token} (ht : t ∈ ts) :
    ∃ found, causes now locale t = .ok found ∧
      ∀ cause ∈ found, ∃ offset, .operand t.source offset cause ∈ w'.report.errors := by
  induction ts generalizing w with
  | nil => cases ht
  | cons u ts ih =>
    obtain ⟨v, hv, hrest⟩ := visitAll_cons_eq_ok h
    rcases List.mem_cons.1 ht with rfl | ht
    · obtain ⟨found, hfound, herrors⟩ := errors_visit hv
      refine ⟨found, hfound, fun cause hcause => ⟨w.offset, errors_subset_visitAll hrest ?_⟩⟩
      rw [herrors]
      exact List.mem_append_right _ (List.mem_map_of_mem hcause)
    · exact ih hrest ht

theorem exists_causes_of_visitAll [Packages] {level : ReportLevel} {now : Calendar.Moment}
    {locale : Text}
    {w : Walk}
    {ts : List Token} {f : Fault} (h : visitAll level now locale w ts = .error f) :
    ∃ t ∈ ts, causes now locale t = .error f := by
  induction ts generalizing w with
  | nil => cases h
  | cons t ts ih =>
    unfold visitAll at h
    split at h
    · rename_i hvisit
      cases h
      exact ⟨t, List.mem_cons_self, causes_of_visit hvisit⟩
    · obtain ⟨u, hu, hcauses⟩ := ih h
      exact ⟨u, List.mem_cons_of_mem _ hu, hcauses⟩

end Report

section

variable {settings : Settings} {now : Calendar.Moment} {template : Text} {report : Report}

theorem fault_of_validate [Packages] {level : ReportLevel}
    (h : validate level settings now template = .ok report) : (scan template).fault = none := by
  unfold validate at h
  simp only at h
  split at h
  · cases h
  · split at h
    · cases h
    · assumption

theorem exists_visitAll_of_validate [Packages] {level : ReportLevel} (hlevel : level ≠ .strict)
    (h : validate level settings now template = .ok report) :
    ∃ w, Report.visitAll level now settings.locale ⟨.empty, 0, false⟩ (scan template).tokens =
      .ok w ∧
      report.errors = w.report.errors ∧ report.warnings = w.report.warnings ∧
      report.tokens = w.report.tokens := by
  unfold validate at h
  simp only [if_neg hlevel] at h
  split at h
  · cases h
  · rename_i w hw
    split at h
    · cases h
    · cases h
      exact ⟨w, hw, rfl, rfl, rfl⟩

theorem checkOperator_of_mem_errors [Packages]
    (h : validate .standard settings now template = .ok report)
    {p : Problem} (hp : p ∈ report.errors) :
    ∃ t ∈ (scan template).tokens, ∃ b, t.evaluated? = some b ∧ ∃ o ∈ b.operators,
      ∃ offset cause, p = .operand t.source offset cause ∧
        Report.checkOperator now settings.locale o = .ok (some cause) := by
  obtain ⟨w, hw, herrors, -⟩ := exists_visitAll_of_validate (by decide) h
  rw [herrors] at hp
  rcases Report.problem_of_visitAll hw hp with
    hp | ⟨t, ht, found, hfound, cause, hcause, offset, hp⟩
  · cases hp
  · unfold Report.causes at hfound
    split at hfound
    · cases hfound
      cases hcause
    · rename_i b hb
      obtain ⟨o, ho, hcheck⟩ := (Report.mem_checkOperators_iff hfound cause).1 hcause
      exact ⟨t, ht, b, hb, o, ho, offset, cause, hp, hcheck⟩

/-- A standard report without an error has checked every operator that is evaluated, and has found
nothing. -/
theorem checkOperator_of_errors_eq_nil [Packages]
    (h : validate .standard settings now template = .ok report)
    (herrors : report.errors = []) {t : Token} (ht : t ∈ (scan template).tokens) {b : Body}
    (hb : t.evaluated? = some b) {o : Operator} (ho : o ∈ b.operators) :
    Report.checkOperator now settings.locale o = .ok none := by
  obtain ⟨w, hw, hreport, -⟩ := exists_visitAll_of_validate (by decide) h
  obtain ⟨found, hfound, hcauses⟩ := Report.reported_visitAll hw ht
  rw [← hreport, herrors] at hcauses
  rw [Report.causes, hb] at hfound
  obtain ⟨cause?, hcheck⟩ := Report.exists_checkOperator hfound ho
  cases cause? with
  | none => exact hcheck
  | some cause =>
    have hcause := (Report.mem_checkOperators_iff hfound cause).2 ⟨o, ho, hcheck⟩
    obtain ⟨offset, hmem⟩ := hcauses cause hcause
    cases hmem

/-- A report on a template that is scanned without a fault is left out only where the check of a
token's operators faults. -/
theorem exists_causes_of_validate [Packages] {level : ReportLevel} {f : Fault}
    (hscan : (scan template).fault = none) (h : validate level settings now template = .error f) :
    ∃ t ∈ (scan template).tokens, Report.causes now settings.locale t = .error f := by
  unfold validate at h
  simp only [hscan] at h
  split at h
  · rename_i hw
    cases h
    exact Report.exists_causes_of_visitAll hw
  · cases h

end

end BraceTemplate
