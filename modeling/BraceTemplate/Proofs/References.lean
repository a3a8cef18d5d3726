import BraceTemplate.Report
import Mathlib.Algebra.Ring.Nat

/-!
# BraceTemplate.Proofs.References

The references of a template in the order in which they are written: of each token that is
evaluated its base first, then the operands of its operators. They are read off the tokens alone.
The counts of a report are those of this list, at whatever level the report is made
(`counts_validate`).
-/

namespace BraceTemplate

namespace Reference

/-- How many parameters a reference takes from the cursor. -/
def taken : Reference → Nat
  | next => 1
  | _ => 0

def takenAll (rs : List Reference) : Nat := (rs.map taken).sum

@[simp] theorem takenAll_nil : takenAll [] = 0 := rfl

@[simp] theorem takenAll_cons (r : Reference) (rs : List Reference) :
    takenAll (r :: rs) = r.taken + takenAll rs := by simp [takenAll]

@[simp] theorem takenAll_append (rs ss : List Reference) :
    takenAll (rs ++ ss) = takenAll rs + takenAll ss := by simp [takenAll]

/-- The greater of a number and the position that a reference names, if it names one. -/
def raise (m : Int) : Reference → Int
  | fixed n => max m n
  | _ => m

/-- The highest position that references name, and at least `m`. -/
def highest (m : Int) (rs : List Reference) : Int := rs.foldl raise m

theorem highest_append (m : Int) (rs ss : List Reference) :
    highest m (rs ++ ss) = highest (highest m rs) ss := by simp [highest]

theorem le_raise (m : Int) (r : Reference) : m ≤ r.raise m := by
  cases r with
  | literal t => exact Int.le_refl m
  | next => exact Int.le_refl m
  | fixed n => exact Int.le_max_left m n

theorem le_highest (m : Int) (rs : List Reference) : m ≤ highest m rs := by
  induction rs generalizing m with
  | nil => exact Int.le_refl m
  | cons r rs ih => exact Int.le_trans (le_raise m r) (ih _)

theorem le_highest_of_mem {n : Int} {rs : List Reference} (h : fixed n ∈ rs) (m : Int) :
    n ≤ highest m rs := by
  induction rs generalizing m with
  | nil => cases h
  | cons r rs ih =>
    rcases List.mem_cons.1 h with rfl | h
    · exact Int.le_trans (Int.le_max_right m n) (le_highest _ rs)
    · exact ih h _

end Reference

namespace Base

/-- The base as a reference; the clock is none. -/
def references : Base → List Reference
  | next => [.next]
  | clock => []
  | position n => [.fixed n]

end Base

namespace Body

def references (b : Body) : List Reference :=
  b.base.references ++ b.operators.flatMap Operator.operands

def usesClock (b : Body) : Bool := b.base = .clock

end Body

namespace Token

/-- The body of a token that is evaluated. -/
def evaluated? : Token → Option Body
  | replacement .verbatim _ => none
  | replacement _ b => some b
  | _ => none

/-- The references that a token resolves when it is evaluated. -/
def references (t : Token) : List Reference := (t.evaluated?.map Body.references).getD []

def usesClock (t : Token) : Bool := (t.evaluated?.map Body.usesClock).getD false

theorem evaluated?_replacement {e : Escape} (he : e ≠ .verbatim) (b : Body) :
    (replacement e b).evaluated? = some b := by
  cases e with
  | plain => rfl
  | verbatim => exact absurd rfl he
  | backslashed => rfl

theorem exists_replacement {t : Token} {b : Body} (h : t.evaluated? = some b) :
    ∃ e, e ≠ .verbatim ∧ t = replacement e b := by
  cases t with
  | literal text => cases h
  | blockOpen => cases h
  | blockClose => cases h
  | replacement e b =>
    cases e with
    | plain => exact ⟨.plain, by decide, by cases h; rfl⟩
    | verbatim => cases h
    | backslashed => exact ⟨.backslashed, by decide, by cases h; rfl⟩

end Token

namespace Report

/-- What is counted between two reports. -/
structure Counts (r r' : Report) (refs : List Reference) (usesClock : Bool) : Prop where
  sequential : r'.sequentialReferences = r.sequentialReferences + Reference.takenAll refs
  highest : r'.highestPosition = Reference.highest r.highestPosition refs
  usesClock : r'.usesClock = (r.usesClock || usesClock)

namespace Counts

variable {r r' r'' : Report} {refs refs' : List Reference} {c c' : Bool}

theorem of_same (hs : r'.sequentialReferences = r.sequentialReferences)
    (hh : r'.highestPosition = r.highestPosition) (hc : r'.usesClock = r.usesClock) :
    Counts r r' [] false := ⟨hs, hh, by rw [hc, Bool.or_false]⟩

theorem trans (h : Counts r r' refs c) (h' : Counts r' r'' refs' c') :
    Counts r r'' (refs ++ refs') (c || c') where
  sequential := by rw [h'.sequential, h.sequential, Reference.takenAll_append, Nat.add_assoc]
  highest := by rw [h'.highest, h.highest, Reference.highest_append]
  usesClock := by rw [h'.usesClock, h.usesClock, Bool.or_assoc]

/-- Fields that are not counted may change afterwards. -/
theorem congr (h : Counts r r' refs c) (hs : r''.sequentialReferences = r'.sequentialReferences)
    (hh : r''.highestPosition = r'.highestPosition) (hc : r''.usesClock = r'.usesClock) :
    Counts r r'' refs c := by
  simpa using h.trans (of_same hs hh hc)

end Counts

theorem counts_countReference (r : Report) (ref : Reference) :
    Counts r (r.countReference ref) [ref] false := by
  cases ref with
  | literal t => exact ⟨rfl, rfl, by simp [countReference]⟩
  | next => exact ⟨rfl, rfl, by simp [countReference]⟩
  | fixed n => exact ⟨rfl, rfl, by simp [countReference]⟩

theorem counts_foldl_countReference (r : Report) (refs : List Reference) :
    Counts r (refs.foldl countReference r) refs false := by
  induction refs generalizing r with
  | nil => exact .of_same rfl rfl rfl
  | cons ref refs ih => exact (counts_countReference r ref).trans (ih _)

theorem counts_countBase (r : Report) (b : Base) :
    Counts r (r.countBase b) b.references (b = .clock) := by
  cases b with
  | next => exact ⟨rfl, rfl, by simp [countBase]⟩
  | clock => exact ⟨rfl, rfl, by simp [countBase]⟩
  | position n => exact ⟨rfl, rfl, by simp [countBase]⟩

theorem counts_countBody (r : Report) (b : Body) :
    Counts r (r.countBody b) b.references b.usesClock := by
  have h := (counts_countBase r b.base).trans
    (counts_foldl_countReference (r.countBase b.base) (b.operators.flatMap Operator.operands))
  rwa [Bool.or_false] at h

theorem counts_pass {r : Report} {w : Walk} {refs : List Reference} {c : Bool}
    (h : Counts r w.report refs c) (t : Token) (isOpen : Bool) :
    Counts r (w.pass t isOpen).report refs c := by
  unfold Walk.pass
  cases t.isLiteral with
  | true => exact h.congr rfl rfl rfl
  | false => exact h.congr rfl rfl rfl

/-- A token adds its references to the counts, one case per token. -/
theorem counts_visit [Packages] {level : ReportLevel} {now : Calendar.Moment} {locale : Text}
    {w w' : Walk}
    {t : Token}
    (h : visit level now locale w t = .ok w') :
    Counts w.report w'.report t.references t.usesClock := by
  cases t with
  | literal text =>
    cases h
    refine counts_pass ?_ _ _
    exact .of_same rfl rfl rfl
  | blockOpen =>
    cases h
    refine counts_pass ?_ _ _
    split
    · exact .of_same rfl rfl rfl
    · exact .of_same rfl rfl rfl
  | blockClose =>
    cases h
    refine counts_pass ?_ _ _
    split
    · exact .of_same rfl rfl rfl
    · exact .of_same rfl rfl rfl
  | replacement e b =>
    simp only [visit] at h
    split at h
    · rename_i he
      cases h
      subst he
      exact counts_pass (.of_same rfl rfl rfl) _ _
    · rename_i he
      have hbody : Counts w.report (w.report.countBody b) (Token.replacement e b).references
          (Token.replacement e b).usesClock := by
        simpa [Token.references, Token.usesClock, Token.evaluated?_replacement he] using
          counts_countBody w.report b
      split at h
      · cases h
        exact counts_pass hbody _ _
      · split at h
        · cases h
        · cases h
          exact counts_pass (hbody.congr rfl rfl rfl) _ _

theorem counts_visitAll [Packages] {level : ReportLevel} {now : Calendar.Moment} {locale : Text}
    {w w' : Walk}
    {ts : List Token}
    (h : visitAll level now locale w ts = .ok w') :
    Counts w.report w'.report (ts.flatMap Token.references) (ts.any Token.usesClock) := by
  induction ts generalizing w with
  | nil =>
    cases h
    exact .of_same rfl rfl rfl
  | cons t ts ih =>
    unfold visitAll at h
    split at h
    · cases h
    · rename_i v hv
      exact (counts_visit hv).trans (ih h)

end Report

/-- A report counts the references of the tokens, whatever its level and settings are. -/
theorem counts_validate [Packages] {level : ReportLevel} {settings : Settings}
    {now : Calendar.Moment}
    {template : Text}
    {report : Report} (h : validate level settings now template = .ok report) :
    let refs := (scan template).tokens.flatMap Token.references
    report.sequentialReferences = Reference.takenAll refs ∧
      report.highestPosition = Reference.highest 0 refs ∧
      report.usesClock = (scan template).tokens.any Token.usesClock := by
  intro refs
  unfold validate at h
  simp only at h
  split at h
  · cases h
  · rename_i w hw
    have hwalk := Report.counts_visitAll hw
    have hreport : Report.Counts w.report report [] false := by
      split at h
      · cases h
      · cases h
        split
        · exact .of_same rfl rfl rfl
        · exact .of_same rfl rfl rfl
    have hcounts := hwalk.trans hreport
    rw [List.append_nil, Bool.or_false] at hcounts
    refine ⟨?_, hcounts.highest, ?_⟩
    · simpa [Report.empty] using hcounts.sequential
    · simpa [Report.empty] using hcounts.usesClock

theorem exists_visitAll_permissive [Packages] (now : Calendar.Moment) (locale : Text)
    (w : Report.Walk)
    (ts : List Token) :
    ∃ w', Report.visitAll .permissive now locale w ts = .ok w' := by
  induction ts generalizing w with
  | nil => exact ⟨w, rfl⟩
  | cons t ts ih =>
    obtain ⟨v, hv⟩ : ∃ v, Report.visit .permissive now locale w t = .ok v := by
      cases t with
      | literal text => exact ⟨_, rfl⟩
      | blockOpen => exact ⟨_, rfl⟩
      | blockClose => exact ⟨_, rfl⟩
      | replacement e b =>
        simp only [Report.visit]
        split
        · exact ⟨_, rfl⟩
        · exact ⟨_, rfl⟩
    obtain ⟨w', hw'⟩ := ih v
    exact ⟨w', by rw [Report.visitAll, hv]; exact hw'⟩

theorem exists_validate_permissive [Packages] {template : Text} (h : (scan template).fault = none)
    (settings : Settings) (now : Calendar.Moment) :
    ∃ report, validate .permissive settings now template = .ok report := by
  obtain ⟨w, hw⟩ :=
    exists_visitAll_permissive now settings.locale ⟨.empty, 0, false⟩ (scan template).tokens
  unfold validate
  simp only [hw, h]
  exact ⟨_, rfl⟩

end BraceTemplate
