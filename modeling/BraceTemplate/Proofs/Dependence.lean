import BraceTemplate.Proofs.Correspondence
import BraceTemplate.Proofs.References

/-!
# BraceTemplate.Proofs.Dependence

An expansion looks at no parameters but those that the report names. Let `N` be the greater of the
report's count of sequential references and of its highest position. Two parameter lists that agree
on the positions 1 to `N`, where a missing parameter counts as empty text, give the same text or the
same failure (`expand_eq_of_agree`); so does any other clock if the report names none.

The relation that carries the induction is `Within n k`: both cursors are at the same place, and
with `k` more parameters they do not go beyond `n`. The report counts every sequential reference,
resolved or not; so what an evaluation leaves unresolved only leaves more room.
-/

namespace BraceTemplate

/-- The lists have the same parameters up to a position; where a list ends, empty text follows. -/
def AgreeUpTo (n : Int) (p q : List Value) : Prop :=
  ∀ i : Nat, ((i + 1 : Nat) : Int) ≤ n → p.getD i (.text []) = q.getD i (.text [])

/-- One place for both cursors, with `k` more parameters up to `n`. -/
def Within (n : Int) (k : Nat) : Cursors := fun m m' => m = m' ∧ ((m + k : Nat) : Int) ≤ n

theorem Within.weaken {n : Int} {j k : Nat} (h : k ≤ j) :
    ∀ m m', Within n j m m' → Within n k m m' := by
  rintro m m' ⟨hm, hle⟩
  exact ⟨hm, by omega⟩

section

variable {settings : Settings} {p q : List Value} {clock clock' : Calendar.Moment} {n : Int}

/-- A parameter, or empty text where there is none. -/
theorem Context.getD_parameter? (settings : Settings) (p : List Value) (i : Int) :
    ((settings.context p).parameter? i).getD (.text []) =
      if 0 < i then p.getD (i - 1).toNat (.text []) else .text [] := by
  unfold Context.parameter? Context.hasParameter
  by_cases hpos : 0 < i
  · by_cases hle : i ≤ p.length
    · simp [Settings.context, hpos, hle]
    · have hnone : p[i.toNat - 1]? = none := by
        rw [List.getElem?_eq_none_iff]
        omega
      simp [Settings.context, hpos, hle, hnone]
  · simp [Settings.context, hpos]

theorem AgreeUpTo.getD_parameter? (h : AgreeUpTo n p q) {i : Int} (hi : i ≤ n) :
    ((settings.context p).parameter? i).getD (.text []) =
      ((settings.context q).parameter? i).getD (.text []) := by
  rw [Context.getD_parameter?, Context.getD_parameter?]
  split
  · exact h (i - 1).toNat (by omega)
  · rfl

theorem Reference.corresponds_valueOrEmpty_of_agree_next (h : AgreeUpTo n p q) (k : Nat) :
    Evaluation.Corresponds (Within n (1 + k)) (Within n k)
      (next.valueOrEmpty (settings.context p)) (next.valueOrEmpty (settings.context q)) := by
  rintro m m' ⟨rfl, hle⟩
  rw [run_valueOrEmpty_next, run_valueOrEmpty_next, h.getD_parameter? (by omega)]
  exact .ok ⟨rfl, by omega⟩

theorem Reference.corresponds_valueOrEmpty_of_agree_fixed (h : AgreeUpTo n p q) {i : Int}
    (hi : i ≤ n) (k : Nat) :
    Evaluation.Corresponds (Within n k) (Within n k)
      ((fixed i).valueOrEmpty (settings.context p))
      ((fixed i).valueOrEmpty (settings.context q)) := by
  rintro m m' hm
  rw [run_valueOrEmpty_fixed, run_valueOrEmpty_fixed, h.getD_parameter? hi]
  exact .ok hm

theorem Reference.corresponds_of_agree (h : AgreeUpTo n p q) {r : Reference}
    (hr : ∀ i, r = .fixed i → i ≤ n) (k : Nat) :
    Reference.Corresponds settings p q (Within n (r.taken + k)) (Within n k) r r := by
  cases r with
  | literal t => exact .literal (Within.weaken (by omega))
  | next => exact .indirect rfl rfl (corresponds_valueOrEmpty_of_agree_next h k)
  | fixed i =>
    simp only [taken, Nat.zero_add]
    exact .indirect rfl rfl (corresponds_valueOrEmpty_of_agree_fixed h (hr i rfl) k)

theorem Operator.corresponds_of_no_operands {o : Operator} (ho : o.operands = []) (k : Nat) :
    Operator.Corresponds settings p q (Within n (Reference.takenAll o.operands + k)) (Within n k)
      o o := by
  rw [ho, Reference.takenAll_nil, Nat.zero_add]
  exact .plain ho

theorem Operator.corresponds_of_agree (h : AgreeUpTo n p q) {o : Operator}
    (ho : ∀ i, .fixed i ∈ o.operands → i ≤ n) (k : Nat) :
    Operator.Corresponds settings p q (Within n (Reference.takenAll o.operands + k)) (Within n k)
      o o := by
  have operand : ∀ r ∈ o.operands, ∀ j, Reference.Corresponds settings p q
      (Within n (r.taken + j)) (Within n j) r r := fun r hr j =>
    Reference.corresponds_of_agree h (fun i hi => ho i (hi ▸ hr)) j
  have pair : ∀ r s : Reference,
      Reference.takenAll [r, s] + k = r.taken + (s.taken + k) := by
    intro r s
    rw [Reference.takenAll_cons, Reference.takenAll_cons, Reference.takenAll_nil, Nat.add_zero,
      Nat.add_assoc]
  cases o with
  | trim => exact corresponds_of_no_operands rfl k
  | lower => exact corresponds_of_no_operands rfl k
  | upper => exact corresponds_of_no_operands rfl k
  | urlEncode => exact corresponds_of_no_operands rfl k
  | urlDecode => exact corresponds_of_no_operands rfl k
  | base64Encode => exact corresponds_of_no_operands rfl k
  | base64Decode => exact corresponds_of_no_operands rfl k
  | slice start stop =>
    rw [operands, pair]
    exact .slice (operand start (by simp [operands]) _) (operand stop (by simp [operands]) k)
  | sliceLength start length =>
    rw [operands, pair]
    exact .sliceLength (operand start (by simp [operands]) _)
      (operand length (by simp [operands]) k)
  | extract pattern group =>
    rw [operands, pair]
    -- the group counts even if it is not resolved
    exact .extract (operand pattern (by simp [operands]) _) (operand group (by simp [operands]) k)
      (Within.weaken (by omega))
  | printf specifier => exact .printf (operand specifier (by simp [operands]) k)
  | date pattern zone =>
    rw [operands, pair]
    exact .date (operand pattern (by simp [operands]) _) (operand zone (by simp [operands]) k)

theorem Operator.chain_of_agree (h : AgreeUpTo n p q) {os : List Operator}
    (hos : ∀ i, .fixed i ∈ os.flatMap Operator.operands → i ≤ n) (k : Nat) :
    Chain (Operator.Corresponds settings p q)
      (Within n (Reference.takenAll (os.flatMap Operator.operands) + k)) (Within n k) os os := by
  induction os with
  | nil =>
    rw [List.flatMap_nil, Reference.takenAll_nil, Nat.zero_add]
    exact .nil
  | cons o os ih =>
    rw [List.flatMap_cons, Reference.takenAll_append, Nat.add_assoc]
    rw [List.flatMap_cons] at hos
    exact .cons
      (Operator.corresponds_of_agree h (fun i hi => hos i (List.mem_append_left _ hi)) _)
      (ih fun i hi => hos i (List.mem_append_right _ hi))

theorem Base.corresponds_of_agree (h : AgreeUpTo n p q) {b : Base}
    (hb : ∀ i, .fixed i ∈ b.references → i ≤ n) (hclock : clock = clock' ∨ b ≠ .clock) (k : Nat) :
    Evaluation.Corresponds (Within n (Reference.takenAll b.references + k)) (Within n k)
      (Body.baseValue (settings.context p) clock b)
      (Body.baseValue (settings.context q) clock' b) := by
  cases b with
  | next => exact Reference.corresponds_valueOrEmpty_of_agree_next h k
  | clock =>
    rcases hclock with rfl | hne
    · exact .pure _ (Within.weaken (by omega))
    · exact absurd rfl hne
  | position i =>
    simp only [references, Reference.takenAll_cons, Reference.takenAll_nil, Reference.taken,
      Nat.zero_add]
    exact Reference.corresponds_valueOrEmpty_of_agree_fixed h (hb i (by simp [references])) k

theorem Body.corresponds_of_agree (h : AgreeUpTo n p q) {b : Body}
    (hb : ∀ i, .fixed i ∈ b.references → i ≤ n) (hclock : clock = clock' ∨ b.usesClock = false)
    (k : Nat) :
    Body.Corresponds settings p q clock clock' (Within n (Reference.takenAll b.references + k))
      (Within n (Reference.takenAll (b.operators.flatMap Operator.operands) + k)) (Within n k)
      b b where
  base := by
    rw [references, Reference.takenAll_append, Nat.add_assoc]
    refine Base.corresponds_of_agree h (fun i hi => hb i (List.mem_append_left _ hi)) ?_ _
    exact hclock.imp_right (by simp [usesClock])
  operators := Operator.chain_of_agree h (fun i hi => hb i (List.mem_append_right _ hi)) k

theorem Token.corresponds_of_not_evaluated {t : Token} (ht : t.evaluated? = none) {R : Cursors} :
    Token.Corresponds settings p q clock clock' R R t t := by
  cases t with
  | literal text => exact .literal
  | blockOpen => exact .blockOpen
  | blockClose => exact .blockClose
  | replacement e b =>
    cases e with
    | plain => cases ht
    | verbatim => exact .verbatim
    | backslashed => cases ht

theorem Token.corresponds_of_agree (h : AgreeUpTo n p q) {t : Token}
    (ht : ∀ i, .fixed i ∈ t.references → i ≤ n) (hclock : clock = clock' ∨ t.usesClock = false)
    (k : Nat) :
    Token.Corresponds settings p q clock clock' (Within n (Reference.takenAll t.references + k))
      (Within n k) t t := by
  cases hbody : t.evaluated? with
  | none =>
    have hrefs : t.references = [] := by rw [references, hbody]; rfl
    rw [hrefs, Reference.takenAll_nil, Nat.zero_add]
    exact corresponds_of_not_evaluated hbody
  | some b =>
    obtain ⟨e, he, rfl⟩ := exists_replacement hbody
    have hrefs : (replacement e b).references = b.references := by rw [references, hbody]; rfl
    have huses : (replacement e b).usesClock = b.usesClock := by rw [usesClock, hbody]; rfl
    rw [hrefs] at ht ⊢
    rw [huses] at hclock
    exact .evaluated he (Body.corresponds_of_agree h ht hclock k)

theorem Token.chain_of_agree (h : AgreeUpTo n p q) {ts : List Token}
    (hts : ∀ i, .fixed i ∈ ts.flatMap Token.references → i ≤ n)
    (hclock : clock = clock' ∨ ts.any Token.usesClock = false) (k : Nat) :
    Chain (Token.Corresponds settings p q clock clock')
      (Within n (Reference.takenAll (ts.flatMap Token.references) + k)) (Within n k) ts ts := by
  induction ts with
  | nil =>
    rw [List.flatMap_nil, Reference.takenAll_nil, Nat.zero_add]
    exact .nil
  | cons t ts ih =>
    rw [List.flatMap_cons, Reference.takenAll_append, Nat.add_assoc]
    rw [List.flatMap_cons] at hts
    rw [List.any_cons, Bool.or_eq_false_iff] at hclock
    exact .cons
      (Token.corresponds_of_agree h (fun i hi => hts i (List.mem_append_left _ hi))
        (hclock.imp_right And.left) _)
      (ih (fun i hi => hts i (List.mem_append_right _ hi)) (hclock.imp_right And.right))

end

namespace Report

/-- The number of parameters that the template refers to. -/
def parameterCount (r : Report) : Int := max (r.sequentialReferences : Int) r.highestPosition

end Report

theorem AgreeUpTo.append_empty (n : Int) (p : List Value) (k : Nat) :
    AgreeUpTo n (p ++ List.replicate k (.text [])) p := by
  intro i _
  rw [List.getD_eq_getElem?_getD, List.getD_eq_getElem?_getD]
  by_cases hi : i < p.length
  · rw [List.getElem?_append_left hi]
  · rw [List.getElem?_append_right (by omega), List.getElem?_eq_none (l := p) (by omega),
      List.getElem?_replicate]
    split
    · rfl
    · rfl

theorem AgreeUpTo.append_of_le {n : Int} {p : List Value} (hn : n ≤ p.length) (q : List Value) :
    AgreeUpTo n (p ++ q) p := by
  intro i hi
  rw [List.getD_eq_getElem?_getD, List.getD_eq_getElem?_getD,
    List.getElem?_append_left (by omega)]

theorem chain_of_report [Packages] {template : Text} {level : ReportLevel} {checks : Settings}
    {now : Calendar.Moment} {report : Report}
    (hreport : validate level checks now template = .ok report) {settings : Settings}
    {p q : List Value} {clock clock' : Calendar.Moment} (hpq : AgreeUpTo report.parameterCount p q)
    (hclock : clock = clock' ∨ report.usesClock = false) :
    Chain (Token.Corresponds settings p q clock clock')
      (Within report.parameterCount report.sequentialReferences) (Within report.parameterCount 0)
      (scan template).tokens (scan template).tokens := by
  obtain ⟨hsequential, hhighest, huses⟩ := counts_validate hreport
  rw [hsequential, ← Nat.add_zero (Reference.takenAll _)]
  refine Token.chain_of_agree hpq (fun i hi => ?_) (huses ▸ hclock) 0
  calc i ≤ report.highestPosition := hhighest ▸ Reference.le_highest_of_mem hi 0
    _ ≤ report.parameterCount := Int.le_max_right _ _

/-- A report can be made of every template that is scanned without a fault. Whichever report is
made, an expansion with any settings depends on no parameter beyond those that it counts, and on
the clock only if it says so; empty text after the parameters, and parameters after those that it
counts, change nothing. -/
theorem expand_eq_of_agree [Packages] {template : Text} (h : (scan template).fault = none) :
    (∀ checks now, ∃ report, validate .permissive checks now template = .ok report) ∧
      ∀ level checks now report, validate level checks now template = .ok report →
        ∀ settings : Settings,
        (∀ p q clock clock', AgreeUpTo report.parameterCount p q →
            clock = clock' ∨ report.usesClock = false →
            expand settings clock template p = expand settings clock' template q) ∧
          (∀ clock p k, expand settings clock template (p ++ List.replicate k (.text [])) =
            expand settings clock template p) ∧
          (∀ clock p q, report.parameterCount ≤ p.length →
            expand settings clock template (p ++ q) = expand settings clock template p) := by
  refine ⟨fun checks => exists_validate_permissive h checks, ?_⟩
  intro level checks now report hreport settings
  have agree : ∀ p q clock clock', AgreeUpTo report.parameterCount p q →
      clock = clock' ∨ report.usesClock = false →
      expand settings clock template p = expand settings clock' template q := by
    intro p q clock clock' hpq hclock
    rw [expand_eq_outcome h, expand_eq_outcome h]
    refine expandTokens_eq_of_chain (chain_of_report hreport hpq hclock) ⟨rfl, ?_⟩
    rw [Nat.zero_add]
    exact Int.le_max_left _ _
  refine ⟨agree, ?_, ?_⟩
  · exact fun clock p k => agree _ _ clock clock (.append_empty _ p k) (.inl rfl)
  · exact fun clock p q hp => agree _ _ clock clock (.append_of_le hp q) (.inl rfl)

/-- Two parameters are counted; a third changes nothing. -/
theorem expand_eq_of_two_counted :
    let template := "\x7b[\x7b\x7d]\x7d\x7b2\x7d".toText
    expand {} ⟨0, some 0⟩ template [.text "hamburger".toText, .int 4, .text ['z']] =
        expand {} ⟨0, some 0⟩ template [.text "hamburger".toText, .int 4] ∧
      expand {} ⟨0, some 0⟩ template [.text "hamburger".toText, .int 4] =
        .ok "urger4".toText := by
  intro template
  let report : Report :=
    ⟨[], [], ["\x7b[\x7b\x7d]\x7d".toText, "\x7b2\x7d".toText], 9, 1, 2, 2, false⟩
  have hreport : validate .permissive {} ⟨0, some 0⟩ template = .ok report := by decide +kernel
  have hscan : (scan template).fault = none := by decide +kernel
  have hall := (expand_eq_of_agree hscan).2 .permissive {} _ report hreport {}
  refine ⟨?_, by decide +kernel⟩
  exact hall.2.2 ⟨0, some 0⟩ [.text "hamburger".toText, .int 4] [.text ['z']] (by decide +kernel)

end BraceTemplate
