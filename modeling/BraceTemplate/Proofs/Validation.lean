import BraceTemplate.Proofs.Application
import BraceTemplate.Proofs.ExpansionFaults
import BraceTemplate.Proofs.OperandChecks
import BraceTemplate.Proofs.TrialDate
import BraceTemplate.Schema

/-!
# BraceTemplate.Proofs.Validation

What a standard report says about expansions. A template with an error in its report expands to a
text only past dates: their patterns are not looked at where a date is applied to what stands for
no moment (`pattern_of_expanded`). A template without one meets an unknown zone, or a pattern that
does not compile, only where an indirect operand gives it (`indirect_of_failed`).
-/

namespace BraceTemplate

open Evaluation

variable {ctx : Context} {v : Value} {n m : Nat} {now : Calendar.Moment}

theorem Reference.run_resolveText_ne_expansion {r : Reference} {e : ExpansionError} :
    (r.resolveText ctx).run n ≠ .error (.expansion e) m := fun h =>
  @Reference.among_resolveText (fun _ => False) ctx r n _ m h

namespace Operator

/-! ## Extractions -/

theorem run_requireText_eq_ok_iff {t : Option Text} {text : Text} :
    (requireText t).run n = .ok text m ↔ t = some text ∧ n = m := by
  cases t with
  | none =>
    constructor
    · intro h
      cases h
    · rintro ⟨h, -⟩
      cases h
  | some s => simp [requireText]

theorem run_requireText_ne_expansion {t : Option Text} {e : ExpansionError} :
    (requireText t).run n ≠ .error (.expansion e) m := by
  intro h
  cases t with
  | none => cases h
  | some s => cases h

theorem compile_of_applyExtract [Packages] {pattern group : Reference} {text : Text}
    (h : (applyExtract ctx pattern group v).run n = .ok text m) :
    ∃ written k compiled, (pattern.resolveText ctx).run n = .ok (some written) k ∧
      Packages.engine.compile written = .ok compiled := by
  obtain ⟨t, i, htext, h⟩ := run_bind_eq_ok_iff.1 h
  obtain ⟨found, k, hfound, h⟩ := run_bind_eq_ok_iff.1 h
  obtain ⟨written, j, hwritten, h⟩ := run_bind_eq_ok_iff.1 h
  obtain ⟨-, rfl⟩ := run_ofFault_eq_ok_iff.1 htext
  obtain ⟨rfl, rfl⟩ := run_requireText_eq_ok_iff.1 hwritten
  cases hcompile : Packages.engine.compile written with
  | error e =>
    rw [hcompile] at h
    cases h
  | ok compiled => exact ⟨written, k, compiled, hfound, hcompile⟩

theorem error_of_applyExtract [Packages] {pattern group : Reference} {e : ExpansionError}
    (h : (applyExtract ctx pattern group v).run n = .error (.expansion e) m) :
    ∃ written k reason position, (pattern.resolveText ctx).run n = .ok (some written) k ∧
      Packages.engine.compile written = .error (.invalid reason position) ∧
      e = .invalidExtraction written reason position := by
  rcases run_bind_eq_error_iff.1 h with h | ⟨t, i, htext, h⟩
  · exact absurd h run_ofFault_ne_expansion
  rcases run_bind_eq_error_iff.1 h with h | ⟨found, k, hfound, h⟩
  · exact absurd h Reference.run_resolveText_ne_expansion
  rcases run_bind_eq_error_iff.1 h with h | ⟨written, j, hwritten, h⟩
  · exact absurd h run_requireText_ne_expansion
  obtain ⟨-, rfl⟩ := run_ofFault_eq_ok_iff.1 htext
  obtain ⟨rfl, rfl⟩ := run_requireText_eq_ok_iff.1 hwritten
  cases hcompile : Packages.engine.compile written with
  | error failure =>
    rw [hcompile] at h
    cases failure with
    | invalid reason position =>
      cases h
      exact ⟨written, _, reason, position, hfound, hcompile, rfl⟩
    | fault f => cases h
  | ok compiled =>
    rw [hcompile] at h
    simp only at h
    split at h
    · cases h
    · rcases run_bind_eq_error_iff.1 h with h | ⟨name, l, hname, h⟩
      · exact absurd h Reference.run_resolveText_ne_expansion
      rcases run_bind_eq_error_iff.1 h with h | ⟨key, l', hkey, h⟩
      · exact absurd h run_ofFault_ne_expansion
      · cases h

/-! ## Dates -/

theorem zone_of_applyDate [Packages] {pattern zone : Reference} {text : Text}
    (h : (applyDate ctx pattern zone v).run n = .ok text m) :
    ∃ written k name j z, (pattern.resolveText ctx).run n = .ok written k ∧
      (zone.resolveText ctx).run k = .ok name j ∧
      Calendar.resolveZone name ctx.defaultZone = .ok z ∧
      (v.toMoment? = .ok none ∨ ∀ c cs, written = some (c :: cs) →
        ∃ instant, Calendar.formatDate instant (c :: cs) z ctx.locale = .ok text) := by
  obtain ⟨written, k, hwritten, h⟩ := run_bind_eq_ok_iff.1 h
  obtain ⟨name, j, hname, h⟩ := run_bind_eq_ok_iff.1 h
  split at h
  · cases h
  · rename_i z hz
    obtain ⟨moment, i, hmoment, h⟩ := run_bind_eq_ok_iff.1 h
    obtain ⟨hmoment, -⟩ := run_ofFault_eq_ok_iff.1 hmoment
    refine ⟨written, k, name, j, z, hwritten, hname, hz, ?_⟩
    cases moment with
    | none => exact .inl hmoment
    | some instant =>
      right
      rintro c cs rfl
      exact ⟨instant, (run_ofExcept_eq_ok_iff.1 h).1⟩

theorem error_of_applyDate [Packages] {pattern zone : Reference} {e : ExpansionError}
    (h : (applyDate ctx pattern zone v).run n = .error (.expansion e) m) :
    ∃ written k name j, (pattern.resolveText ctx).run n = .ok written k ∧
      (zone.resolveText ctx).run k = .ok name j ∧
      (Calendar.resolveZone name ctx.defaultZone = .error e ∨
        ∃ pattern, Calendar.IsPatternError pattern e) := by
  rcases run_bind_eq_error_iff.1 h with h | ⟨written, k, hwritten, h⟩
  · exact absurd h Reference.run_resolveText_ne_expansion
  rcases run_bind_eq_error_iff.1 h with h | ⟨name, j, hname, h⟩
  · exact absurd h Reference.run_resolveText_ne_expansion
  refine ⟨written, k, name, j, hwritten, hname, ?_⟩
  split at h
  · rename_i hz
    cases h
    exact .inl hz
  · rename_i z hz
    rcases run_bind_eq_error_iff.1 h with h | ⟨moment, i, hmoment, h⟩
    · exact absurd h run_ofFault_ne_expansion
    · cases moment with
      | none => cases h
      | some instant =>
        obtain ⟨hformat, -⟩ := run_ofExcept_eq_error_iff.1 h
        exact .inr ⟨_, Calendar.isPatternError_of_formatDate hformat⟩

/-! ## Operators with a problem -/

theorem resolveZone_cons (c : CodePoint) (cs : Text) (default default' : Option Text) :
    Calendar.resolveZone (some (c :: cs)) default =
      Calendar.resolveZone (some (c :: cs)) default' :=
  rfl

theorem compile_of_checkOperator [Packages] {locale pattern : Text} {group : Reference}
    {cause : ExpansionError}
    (h : Report.checkOperator now locale (extract (.literal (some pattern)) group) =
      .ok (some cause)) :
    ∃ e, Packages.engine.compile pattern = .error e := by
  simp only [Report.checkOperator] at h
  split at h
  · cases h
  · rename_i hcompile
    exact ⟨_, hcompile⟩
  · cases h

theorem error_of_checkDate [Packages] {locale : Text} {pattern zone : Reference}
    {cause : ExpansionError}
    (h : Report.checkDate now locale pattern zone = .ok (some cause)) :
    (∃ c cs, zone = .literal (some (c :: cs)) ∧
      Calendar.resolveZone (some (c :: cs)) none = .error cause) ∨
    ∃ c cs z, pattern = .literal (some (c :: cs)) ∧
      Calendar.formatDate now (c :: cs) z locale = .error (.expansion cause) := by
  unfold Report.checkDate at h
  simp only at h
  split at h
  · rename_i hzone
    cases h
    split at hzone
    · rename_i c cs
      exact .inl ⟨c, cs, rfl, hzone⟩
    · cases hzone
  · split at h
    · rename_i z hzone _ c cs
      split at h
      · cases h
      · rename_i hformat
        cases h
        exact .inr ⟨c, cs, z, rfl, hformat⟩
      · cases h
    · cases h

/-- An operator with a problem gives a text only as a date of which the pattern has the problem,
and only of what stands for no moment. -/
theorem date_of_problem [packages : Packages] (hsettles : packages.Settles now) {o : Operator}
    {cause : ExpansionError} {text : Text}
    (hcheck : Report.checkOperator now ctx.locale o = .ok (some cause))
    (h : (o.applyText ctx v).run n = .ok text m) :
    ∃ pattern zone, o = date (.literal (some pattern)) zone ∧
      Calendar.IsPatternError pattern cause ∧ v.toMoment? = .ok none := by
  cases o with
  | extract pattern group =>
    obtain ⟨written, k, compiled, hresolve, hcompile⟩ := compile_of_applyExtract h
    rcases pattern with t | _ | i
    · cases hresolve
      obtain ⟨e, hfail⟩ := compile_of_checkOperator hcheck
      rw [hcompile] at hfail
      cases hfail
    · cases hcheck
    · cases hcheck
  | date pattern zone =>
    obtain ⟨written, k, name, j, z, hwritten, hname, hzone, hmoment⟩ := zone_of_applyDate h
    rcases error_of_checkDate hcheck with ⟨c, cs, rfl, hfail⟩ | ⟨c, cs, z', rfl, hfail⟩
    · cases hname
      rw [resolveZone_cons c cs _ none, hfail] at hzone
      cases hzone
    · cases hwritten
      have hpattern : Calendar.IsPatternError (c :: cs) cause :=
        Calendar.isPatternError_of_formatDate hfail
      rcases hmoment with hnone | hformat
      · exact ⟨c :: cs, zone, rfl, hpattern, hnone⟩
      · obtain ⟨instant, hok⟩ := hformat c cs rfl
        obtain ⟨hletter, hwrite⟩ := Calendar.formatDate_eq_ok_iff.1 hok
        rcases Calendar.formatDate_eq_expansion hfail with hne | hnone
        · exact absurd hletter hne
        · exact absurd hwrite (hsettles _ _ _ hnone instant z text)
  | _ => cases hcheck

/-- A date without a problem has no zone that is not found; the zone is a variable here because the
table behind the zones must not be unfolded. -/
theorem zone_of_checkDate [Packages] {locale : Text} {pattern zone : Reference}
    (h : Report.checkDate now locale pattern zone = .ok none) {c : CodePoint} {cs : Text}
    (hzone : zone = .literal (some (c :: cs))) :
    ∃ z, Calendar.resolveZone (some (c :: cs)) none = .ok z := by
  unfold Report.checkDate at h
  simp only at h
  split at h
  · cases h
  · rename_i z hz
    split at hz
    · cases hzone
      exact ⟨z, hz⟩
    · rename_i hother
      exact absurd hzone (hother c cs)

theorem isIndirect_of_checkDate [Packages] {locale name : Text} {pattern zone : Reference}
    {default : Option Text} {e : ExpansionError} {k j : Nat}
    (hcheck : Report.checkDate now locale pattern zone = .ok none) (hne : name ≠ [])
    (hfail : Calendar.resolveZone (some name) default = .error e)
    (hname : (zone.resolveText ctx).run k = .ok (some name) j) : zone.isIndirect = true := by
  obtain ⟨c, cs, rfl⟩ := List.exists_cons_of_ne_nil hne
  by_contra hdirect
  have hzone : zone = .literal (some (c :: cs)) := by
    rcases zone with t | _ | i
    · rw [(EStateM.Result.ok.inj hname).1]
    · exact absurd rfl hdirect
    · exact absurd rfl hdirect
  obtain ⟨z, hz⟩ := zone_of_checkDate hcheck hzone
  rw [resolveZone_cons c cs default none, hz] at hfail
  cases hfail

/-- An unknown zone without a problem was named by an indirect operand, if it is not the default
one. -/
theorem zone_of_no_problem {o : Operator} {name : Text}
    (hdefault : ctx.defaultZone = some name → Calendar.Zone.find? name ≠ none)
    (hoperands : o.HasOperands) (hcheck : Report.checkOperator now ctx.locale o = .ok none)
    (h : (o.applyText ctx v).run n = .error (.expansion (.unknownZone name)) m) :
    ∃ pattern zone written k j, o = date pattern zone ∧ zone.isIndirect = true ∧
      (pattern.resolveText ctx).run n = .ok written k ∧
      (zone.resolveText ctx).run k = .ok (some name) j := by
  have hraises := among_applyText ctx hoperands v n _ m h
  cases o with
  | date pattern zone =>
    obtain ⟨written, k, given, j, hwritten, hgiven, hzone | hpattern⟩ := error_of_applyDate h
    · obtain ⟨_, hname, hne, hfind, hgiven' | hgiven'⟩ := Calendar.resolveZone_eq_error hzone
      · cases hname
        subst hgiven'
        refine ⟨pattern, zone, written, k, j, rfl, ?_, hwritten, hgiven⟩
        exact isIndirect_of_checkDate hcheck hne hzone hgiven
      · cases hname
        exact absurd hfind (hdefault hgiven')
    · obtain ⟨p, hp | ⟨letter, hp⟩⟩ := hpattern
      · cases hp
      · cases hp
  | _ => cases hraises

theorem pattern_of_no_problem {o : Operator} {written : Text} {reason : Text} {position : Nat}
    (hoperands : o.HasOperands) (hcheck : Report.checkOperator now ctx.locale o = .ok none)
    (h : (o.applyText ctx v).run n =
      .error (.expansion (.invalidExtraction written reason position)) m) :
    ∃ pattern group k, o = extract pattern group ∧ pattern.isIndirect = true ∧
      (pattern.resolveText ctx).run n = .ok (some written) k := by
  have hraises := among_applyText ctx hoperands v n _ m h
  cases o with
  | extract pattern group =>
    obtain ⟨given, k, r, i, hgiven, hcompile, he⟩ := error_of_applyExtract h
    cases he
    refine ⟨pattern, group, k, rfl, ?_, hgiven⟩
    rcases pattern with t | _ | i
    · cases hgiven
      simp only [Report.checkOperator, hcompile] at hcheck
      cases hcheck
    · rfl
    · rfl
  | _ => cases hraises

end Operator

/-! ## Valid settings -/

/-- Settings that can be read. -/
def Settings.IsValid (s : Settings) : Prop := ∃ entries, Schema.readSettings entries = .ok s

theorem Schema.readField_eq_ok {α : Type} {name : String} {default a : α}
    {read : Value → Except FieldCause α} {entries : Entries}
    (h : readField name default read entries = .ok a) : a = default ∨ ∃ v, read v = .ok a := by
  unfold readField at h
  split at h
  · cases h
    exact .inl rfl
  · rename_i v _
    split at h
    · rename_i hread
      cases h
      exact .inr ⟨v, hread⟩
    · cases h

theorem Schema.find?_of_readZone {v : Value} {name : Text} (h : readZone v = .ok (some name)) :
    Calendar.Zone.find? name ≠ none := by
  unfold readZone at h
  -- the table behind the zones must not be unfolded
  obtain ⟨find, hfind⟩ : ∃ find, find = Calendar.Zone.find? := ⟨_, rfl⟩
  rw [← hfind] at h ⊢
  split at h
  · cases h
  · split at h
    · cases h
    · cases h
    · split at h
      · rename_i z hz
        cases h
        rw [hz]
        exact Option.some_ne_none z
      · cases h

theorem Settings.IsValid.find?_ne_none {s : Settings} (h : s.IsValid) {name : Text}
    (hname : s.defaultZone = some name) : Calendar.Zone.find? name ≠ none := by
  obtain ⟨entries, h⟩ := h
  unfold Schema.readSettings at h
  simp only at h
  split at h
  · rename_i locale zone level _ hzone _
    cases h
    rcases Schema.readField_eq_ok hzone with hdefault | ⟨v, hv⟩
    · rw [hdefault] at hname
      cases hname
    · rw [show zone = some name from hname] at hv
      exact Schema.find?_of_readZone hv
  · cases h

/-! ## Reports and expansions -/

section

variable {settings : Settings} {template : Text} {report : Report}

/-- A template with errors in its report expands to a text only if each of them is the problem of a
date pattern, which is not looked at: wherever the run applies that date, it applies it to what
stands for no moment. So an error of a pattern to extract or of a zone makes every expansion fail,
and one of a date pattern every expansion that applies the date to a moment. -/
theorem pattern_of_expanded [packages : Packages] {now : Calendar.Moment}
    (hsettles : packages.Settles now)
    (hreport : validate .standard settings now template = .ok report)
    {clock : Calendar.Moment} {parameters : List Value} {text : Text}
    (htext : expand settings clock template parameters = .ok text) {p : Problem}
    (hp : p ∈ report.errors) :
    ∃ t ∈ (scan template).tokens, ∃ b, t.evaluated? = some b ∧ ∃ pattern zone offset cause,
      .date (.literal (some pattern)) zone ∈ b.operators ∧
      p = .operand t.source offset cause ∧ Calendar.IsPatternError pattern cause ∧
      let Applied := Token.Applies (settings.context parameters) clock (scan template).tokens 0
        (.date (.literal (some pattern)) zone)
      (∃ v n, Applied v n) ∧ ∀ v n, Applied v n → v.toMoment? = .ok none := by
  obtain ⟨t, ht, b, hb, o, ho, offset, cause, rfl, hcheck⟩ :=
    checkOperator_of_mem_errors hreport hp
  rw [expand_eq_outcome (fault_of_validate hreport), outcome_map_eq_ok_iff] at htext
  obtain ⟨block, position, hrun, -⟩ := htext
  have happlied : ∀ v n, Token.Applies (settings.context parameters) clock (scan template).tokens 0
      o v n → ∃ pattern zone, o = .date (.literal (some pattern)) zone ∧
        Calendar.IsPatternError pattern cause ∧ v.toMoment? = .ok none := by
    intro v n ha
    obtain ⟨text, j, happly⟩ := ha.exists_text hrun
    exact Operator.date_of_problem hsettles hcheck happly
  obtain ⟨v, n, ha⟩ := Token.exists_applies hrun ht hb ho
  obtain ⟨pattern, zone, rfl, hpattern, -⟩ := happlied v n ha
  refine ⟨t, ht, b, hb, pattern, zone, offset, cause, ho, rfl, hpattern, ⟨v, n, ha⟩, ?_⟩
  intro u k hu
  obtain ⟨-, -, -, -, hnone⟩ := happlied u k hu
  exact hnone

/-- A number that is trimmed is a text, and a text is no moment: the letter that is no field is not
looked at. -/
theorem pattern_of_expanded_trimmed :
    let template := "\x7btrim,date(n)\x7d".toText
    let p : Problem := .operand template 0 (.unknownDateLetter 'n' ['n'])
    ∃ report, validate .standard {} .epoch template = .ok report ∧ p ∈ report.errors ∧
      expand {} ⟨0, some 0⟩ template [.int 5] = .ok [] ∧
      ∃ pattern zone v n, Token.Applies (Settings.context {} [.int 5]) ⟨0, some 0⟩
        (scan template).tokens 0 (.date (.literal (some pattern)) zone) v n ∧
        v.toMoment? = .ok none := by
  intro template p
  have hreport : validate .standard {} .epoch template =
      .ok ⟨[p], [], [template], template.length, 1, 1, 0, false⟩ := by decide +kernel
  have htext : expand {} ⟨0, some 0⟩ template [.int 5] = .ok [] := by decide +kernel
  have hp : p ∈ [p] := List.mem_singleton_self p
  obtain ⟨_, _, _, _, pattern, zone, _, _, _, _, _, ⟨v, n, ha⟩, hnone⟩ :=
    pattern_of_expanded Calendar.settles_standard hreport htext hp
  exact ⟨_, hreport, hp, htext, pattern, zone, v, n, ha, hnone v n ha⟩

/-- An error in the report, and an expansion all the same: to the empty text. -/
theorem expand_date_of_text :
    let template := "\x7bdate(n)\x7d".toText
    (∃ report, validate .standard {} .epoch template = .ok report ∧ report.errors ≠ []) ∧
      expand {} ⟨0, some 0⟩ template [.text ['x']] = .ok [] := by
  refine ⟨⟨⟨[.operand "\x7bdate(n)\x7d".toText 0 (.unknownDateLetter 'n' ['n'])], [],
    ["\x7bdate(n)\x7d".toText], 9, 1, 1, 0, false⟩, by decide +kernel, by simp⟩, by decide +kernel⟩

/-- Without an error in the report of a template and with valid settings, an unknown zone was named
by an indirect operand, and a pattern that does not compile was given by one. -/
theorem indirect_of_failed (hsettings : settings.IsValid)
    (hreport : validate .standard settings now template = .ok report) (herrors : report.errors = [])
    (clock : Calendar.Moment) (parameters : List Value) :
    let ctx := settings.context parameters
    let Applied := Token.Applies ctx clock (scan template).tokens 0
    (∀ name, expand settings clock template parameters = .error (.expansion (.unknownZone name)) →
      ∃ pattern zone v n written k j, Applied (.date pattern zone) v n ∧ zone.isIndirect = true ∧
        (pattern.resolveText ctx).run n = .ok written k ∧
        (zone.resolveText ctx).run k = .ok (some name) j) ∧
    ∀ written reason position, expand settings clock template parameters =
        .error (.expansion (.invalidExtraction written reason position)) →
      ∃ pattern group v n k, Applied (.extract pattern group) v n ∧ pattern.isIndirect = true ∧
        (pattern.resolveText ctx).run n = .ok (some written) k := by
  intro ctx Applied
  have hscan := fault_of_validate hreport
  have happlied : ∀ e, expand settings clock template parameters = .error (.expansion e) →
      ∃ o v n m, Applied o v n ∧ o.HasOperands ∧
        Report.checkOperator now settings.locale o = .ok none ∧
        (o.applyText ctx v).run n = .error (.expansion e) m := by
    intro e h
    rw [expand_eq_outcome hscan, outcome_map_eq_error_iff] at h
    obtain ⟨m, hrun⟩ := h
    obtain ⟨o, v, n, ha, he⟩ := Token.exists_applies_of_error hrun
    obtain ⟨t, ht, b, hb, ho⟩ := ha.exists_mem
    exact ⟨o, v, n, m, ha, hasOperands_of_scan ht hb ho,
      checkOperator_of_errors_eq_nil hreport herrors ht hb ho, he⟩
  constructor
  · intro name h
    obtain ⟨o, v, n, m, ha, hoperands, hcheck, he⟩ := happlied _ h
    obtain ⟨pattern, zone, written, k, j, rfl, hindirect, hwritten, hname⟩ :=
      Operator.zone_of_no_problem hsettings.find?_ne_none hoperands hcheck he
    exact ⟨pattern, zone, v, n, written, k, j, ha, hindirect, hwritten, hname⟩
  · intro written reason position h
    obtain ⟨o, v, n, m, ha, hoperands, hcheck, he⟩ := happlied _ h
    obtain ⟨pattern, group, k, rfl, hindirect, hresolve⟩ :=
      Operator.pattern_of_no_problem hoperands hcheck he
    exact ⟨pattern, group, v, n, k, ha, hindirect, hresolve⟩

/-- A pattern that the second parameter gives. -/
theorem indirect_of_failed_pattern :
    let template := "\x7b[/\x7b\x7d/]\x7d".toText
    let ctx := Settings.context {} [.text ['a'], .text ['(']]
    ∃ pattern group v n k, Token.Applies ctx ⟨0, some 0⟩ (scan template).tokens 0
        (.extract pattern group) v n ∧ pattern.isIndirect = true ∧
      (pattern.resolveText ctx).run n = .ok (some ['(']) k := by
  intro template ctx
  have hsettings : Settings.IsValid {} := ⟨[], rfl⟩
  have hreport : validate .standard {} .epoch template =
      .ok ⟨[], [], [template], template.length, 1, 2, 0, false⟩ := by decide +kernel
  have hfail : expand {} ⟨0, some 0⟩ template [.text ['a'], .text ['(']] =
      .error (.expansion (.invalidExtraction ['('] "missing )".toText 1)) := by decide +kernel
  exact (indirect_of_failed hsettings hreport rfl _ _).2 _ _ _ hfail

end

end BraceTemplate
