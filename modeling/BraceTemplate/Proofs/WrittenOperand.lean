import BraceTemplate.Proofs.Acceptance

/-!
# BraceTemplate.Proofs.WrittenOperand

Operands as they are written. Digits in braces, or nothing in braces, point into the parameters; any
other operand is a literal text, from which the escaping backslashes are taken away in a format.
What is compiled is what is written (`compile_operands`), with two exceptions: a line feed behind
the braces is passed over, and in a format the backslashes are gone before the braces are looked
for.
-/

namespace BraceTemplate

namespace Directive

theorem unescape_of_not_mem {t : Text} (h : .char '\\' ∉ t) : unescape t = t := by
  induction t with
  | nil => rfl
  | cons c t ih =>
    rw [List.mem_cons, not_or] at h
    rw [unescape_cons (Ne.symm h.1), ih h.2]

theorem backslash_not_mem_of_isIndirect {t : Text} (h : IsIndirect t) : .char '\\' ∉ t :=
  not_mem_of_isOperand (p := Text.isDecimal) (.inr h) (by decide) (by decide) (by decide)

end Directive

open Directive (IsIndirect)

/-! ## Pointers into the parameters -/

namespace Reference

/-- Digits in braces, or nothing in braces, and a line feed behind them if any. -/
def IsPointer (t : Text) : Prop := IsIndirect t ∨ ∃ u, IsIndirect u ∧ t = u ++ [.char '\n']

theorem indirectDigits?_braces {digits rest : Text} (h : ∀ c ∈ digits, Text.isDecimal c = true)
    (hrest : rest = [] ∨ rest = [.char '\n']) :
    indirectDigits? (.char '\x7b' :: (digits ++ .char '\x7d' :: rest)) = some digits := by
  have hstop : ∀ c ∈ (.char '\x7d' :: rest).head?, Text.isDecimal c = false := by
    intro c hc
    cases hc
    decide
  have htake := Text.takeWhile_append_of_stop h hstop
  have hdrop := Text.dropWhile_append_of_stop h hstop
  rcases hrest with rfl | rfl
  · simp only [indirectDigits?, htake, hdrop]
  · simp only [indirectDigits?, htake, hdrop]

theorem isPointer_of_indirectDigits? {t digits : Text} (h : indirectDigits? t = some digits) :
    IsPointer t := by
  unfold indirectDigits? at h
  split at h
  · rename_i t
    have hdigits : ∀ c ∈ t.takeWhile Text.isDecimal, Text.isDecimal c = true :=
      fun c hc => List.mem_takeWhile_imp hc
    have hsplit := List.takeWhile_append_dropWhile (p := Text.isDecimal) (l := t)
    simp only at h
    split at h
    · rename_i hrest
      rw [hrest] at hsplit
      exact .inl ⟨_, hdigits, by rw [hsplit]⟩
    · rename_i hrest
      rw [hrest] at hsplit
      exact .inr ⟨_, ⟨_, hdigits, rfl⟩, by simp [hsplit]⟩
    · cases h
  · cases h

theorem indirectDigits?_eq_none_iff {t : Text} : indirectDigits? t = none ↔ ¬ IsPointer t := by
  constructor
  · rintro hnone (⟨digits, hdigits, rfl⟩ | ⟨_, ⟨digits, hdigits, rfl⟩, rfl⟩)
    · rw [indirectDigits?_braces hdigits (.inl rfl)] at hnone
      cases hnone
    · rw [List.cons_append, List.append_assoc, List.singleton_append,
        indirectDigits?_braces hdigits (.inr rfl)] at hnone
      cases hnone
  · intro h
    cases hdigits : indirectDigits? t with
    | none => rfl
    | some digits => exact absurd (isPointer_of_indirectDigits? hdigits) h

theorem parse_of_not_isPointer {t : Text} (h : ¬ IsPointer t) :
    parse t = .ok (.literal (some t)) := by
  rw [parse, indirectDigits?_eq_none_iff.2 h]

theorem isIndirect_of_parse {t : Text} {r : Reference} (h : parse t = .ok r) (ht : IsPointer t) :
    r.isIndirect = true := by
  rcases eq_literal_or_isIndirect_of_parse h with ⟨-, hnone⟩ | hr
  · exact absurd ht (indirectDigits?_eq_none_iff.1 hnone)
  · exact hr

theorem parse_braces {digits : Text} (hdigits : ∀ c ∈ digits, Text.isDecimal c = true)
    {r : Reference} (h : parse (.char '\x7b' :: (digits ++ [.char '\x7d'])) = .ok r) :
    r = ofPosition (Number.digitsValue digits) := by
  simp only [parse, indirectDigits?_braces hdigits (.inl rfl), Number.readDigits] at h
  split at h
  · cases h
  · rename_i n hn
    split at hn
    · cases hn
    · cases hn
      cases h
      rfl

end Reference

/-! ## Written operands -/

/-- An operand as it is written. In a format backslashes escape. -/
structure WrittenOperand where
  text : Text
  isFormat : Bool

namespace WrittenOperand

/-- What is written, without escaping backslashes. -/
def plain (o : WrittenOperand) : Text :=
  if o.isFormat then Directive.unescape o.text else o.text

/-- The operand as it is meant: digits in braces are a position, and nothing in braces is the next
one; all else is a literal. -/
inductive StandsFor (o : WrittenOperand) : Reference → Prop where
  | position {digits : Text} (hdigits : ∀ c ∈ digits, Text.isDecimal c = true)
      (h : o.text = .char '\x7b' :: (digits ++ [.char '\x7d'])) :
      StandsFor o (.ofPosition (Number.digitsValue digits))
  | literal (h : ¬ IsIndirect o.text) : StandsFor o (.literal (some o.plain))

/-- The operand is not written as digits in braces and is read as such. -/
inductive IsMisread (o : WrittenOperand) : Prop where
  | lineFeed {u : Text} (hu : IsIndirect u) (h : o.text = u ++ [.char '\n']) : IsMisread o
  | escaped (hformat : o.isFormat = true) (hbackslash : .char '\\' ∈ o.text)
      (h : Reference.IsPointer o.plain) : IsMisread o

variable {o : WrittenOperand} {r : Reference}

theorem plain_of_not_mem (h : .char '\\' ∉ o.text) : o.plain = o.text := by
  unfold plain
  split
  · exact Directive.unescape_of_not_mem h
  · rfl

theorem isMisread_iff : o.IsMisread ↔ ¬ IsIndirect o.text ∧ Reference.IsPointer o.plain := by
  constructor
  · rintro (⟨hu, h⟩ | ⟨-, hbackslash, h⟩)
    · refine ⟨fun hindirect => ?_, .inr ⟨_, hu, ?_⟩⟩
      · have hnot := Directive.not_mem_of_isOperand (p := Text.isDecimal) (c := '\n')
          (.inr hindirect) (by decide) (by decide) (by decide)
        exact hnot (by simp [h])
      · rw [plain_of_not_mem, h]
        simp [h, Directive.backslash_not_mem_of_isIndirect hu]
    · exact ⟨fun hindirect => Directive.backslash_not_mem_of_isIndirect hindirect hbackslash, h⟩
  · rintro ⟨hnot, hpointer⟩
    by_cases hescaped : o.isFormat = true ∧ .char '\\' ∈ o.text
    · exact .escaped hescaped.1 hescaped.2 hpointer
    · have hplain : o.plain = o.text := by
        by_cases hformat : o.isFormat = true
        · exact plain_of_not_mem fun hbackslash => hescaped ⟨hformat, hbackslash⟩
        · exact if_neg hformat
      rw [hplain] at hpointer
      obtain ⟨u, hu, h⟩ := hpointer.resolve_left hnot
      exact .lineFeed hu h

theorem standsFor_iff_of_parse (h : Reference.parse o.plain = .ok r) :
    o.StandsFor r ↔ ¬ o.IsMisread := by
  rw [isMisread_iff]
  by_cases hindirect : IsIndirect o.text
  · refine iff_of_true ?_ fun hmisread => hmisread.1 hindirect
    rw [plain_of_not_mem (Directive.backslash_not_mem_of_isIndirect hindirect)] at h
    obtain ⟨digits, hdigits, htext⟩ := hindirect
    rw [htext] at h
    rw [Reference.parse_braces hdigits h]
    exact .position hdigits htext
  · rw [and_iff_right hindirect]
    constructor
    · rintro (⟨hdigits, htext⟩ | -) hpointer
      · exact hindirect ⟨_, hdigits, htext⟩
      · cases Reference.isIndirect_of_parse h hpointer
    · intro hpointer
      rw [Reference.parse_of_not_isPointer hpointer] at h
      cases h
      exact .literal hindirect

theorem isIndirect_of_isMisread (h : Reference.parse o.plain = .ok r) (hmisread : o.IsMisread) :
    r.isIndirect = true :=
  Reference.isIndirect_of_parse h (isMisread_iff.1 hmisread).2

end WrittenOperand

namespace Directive

/-- The operands that stand in a directive, in the places of the operands of its operator; an empty
format stands for none. -/
def writtenOperands : Directive → List (Option WrittenOperand)
  | substring start none => [some ⟨start, false⟩]
  | substring start (some (_, bound)) => [some ⟨start, false⟩, some ⟨bound, false⟩]
  | extract pattern group => [some ⟨pattern, false⟩, some ⟨group, false⟩]
  | date _ _ (some (format, zone)) =>
    [if format.isEmpty then none else some ⟨format, true⟩, zone.map (⟨·, false⟩)]
  | _ => []

/-- Each operand of a directive is an operand of the step's operator. -/
def EachOperand (P : WrittenOperand → Reference → Prop) (d : Directive) (s : Step) : Prop :=
  ∀ (i : Nat) (o : WrittenOperand), d.writtenOperands[i]? = some (some o) →
    ∃ op r, s.operator = some op ∧ op.operands[i]? = some r ∧ P o r

theorem EachOperand.mono {P Q : WrittenOperand → Reference → Prop} {d : Directive} {s : Step}
    (h : EachOperand P d s) (hPQ : ∀ o r, P o r → Q o r) : EachOperand Q d s := by
  intro i o ho
  obtain ⟨op, r, hop, hr, hP⟩ := h i o ho
  exact ⟨op, r, hop, hr, hPQ o r hP⟩

theorem eachOperand_of_two {P : WrittenOperand → Reference → Prop} {d : Directive} {s : Step}
    {op : Operator} {first second : Option WrittenOperand} {a b : Reference}
    (hd : d.writtenOperands = [first, second]) (hs : s.operator = some op)
    (hop : op.operands = [a, b]) (ha : ∀ o ∈ first, P o a) (hb : ∀ o ∈ second, P o b) :
    EachOperand P d s := by
  intro i o ho
  rw [hd] at ho
  match i, ho with
  | 0, ho => exact ⟨op, a, hs, by rw [hop]; rfl, ha o (Option.some.inj ho)⟩
  | 1, ho => exact ⟨op, b, hs, by rw [hop]; rfl, hb o (Option.some.inj ho)⟩
  | _ + 2, ho => cases ho

theorem parses_of_dateOperator {format : Text} {zone : Option Text} {op : Operator}
    (h : dateOperator (some format) zone = .ok op) :
    ∃ a b, op = .date a b ∧ (format ≠ [] → Reference.parse (unescape format) = .ok a) ∧
      ∀ z ∈ zone, Reference.parse z = .ok b := by
  simp only [dateOperator] at h
  split at h
  · cases h
  · rename_i a ha
    have hformat : format ≠ [] → Reference.parse (unescape format) = .ok a := by
      intro hne
      cases format with
      | nil => exact absurd rfl hne
      | cons c format => exact ha
    split at h
    · cases h
      exact ⟨a, _, rfl, hformat, by simp⟩
    · split at h
      · cases h
      · rename_i b hb
        cases h
        exact ⟨a, b, rfl, hformat, by simpa using hb⟩

/-- The operands are read one by one from what is written, one case per form. -/
theorem eachOperand_of_compile {d : Directive} {s : Step} (h : d.compile = .ok s) :
    EachOperand (fun o r => Reference.parse o.plain = .ok r) d s := by
  cases d with
  | substring start bound =>
    rcases bound with _ | ⟨mark, bound⟩
    · simp only [compile] at h
      split at h
      · cases h
      · rename_i a ha
        cases h
        intro i o ho
        cases i with
        | zero =>
          cases ho
          exact ⟨_, a, rfl, rfl, ha⟩
        | succ i => cases ho
    · obtain ⟨a, b, ha, hb, rfl⟩ := parses_of_ofOperands h
      have hoperands :
          ((if mark = ',' then Operator.slice else Operator.sliceLength) a b).operands =
            [a, b] := by
        split
        · rfl
        · rfl
      refine eachOperand_of_two rfl rfl hoperands ?_ ?_
      · rintro o ⟨⟩
        exact ha
      · rintro o ⟨⟩
        exact hb
  | extract pattern group =>
    obtain ⟨a, b, ha, hb, rfl⟩ := parses_of_ofOperands h
    refine eachOperand_of_two rfl rfl rfl ?_ ?_
    · rintro o ⟨⟩
      exact ha
    · rintro o ⟨⟩
      exact hb
  | date isClock w detail =>
    rcases detail with _ | ⟨format, zone⟩
    · intro i o ho
      cases ho
    · simp only [compile] at h
      split at h
      · cases h
      · rename_i op hop
        cases h
        obtain ⟨a, b, rfl, ha, hb⟩ := parses_of_dateOperator hop
        refine eachOperand_of_two rfl rfl rfl ?_ ?_
        · intro o ho
          split at ho
          · cases ho
          · rename_i hne
            cases ho
            exact ha (by simpa using hne)
        · intro o ho
          obtain ⟨z, hz, rfl⟩ := Option.map_eq_some_iff.1 ho
          exact hb z hz
  | _ =>
    intro i o ho
    cases ho

theorem forall₂_of_compileAll {ds : List Directive} {ss : List Step}
    (h : compileAll ds = .ok ss) : List.Forall₂ (fun d s => d.compile = .ok s) ds ss := by
  induction ds generalizing ss with
  | nil =>
    cases h
    exact .nil
  | cons d ds ih =>
    obtain ⟨s, ss, hs, hss, rfl⟩ := compileAll_cons_eq_ok_iff.1 h
    exact .cons hs (ih hss)

end Directive

namespace Body

open Directive

/-- Each operand of a body is compiled to what it stands for, unless it is misread. Then it points
into the parameters and is written otherwise. -/
theorem compile_operands {raw : Text} {b : Body} (h : compile raw = .ok (some b)) :
    ∃ ds steps, Decomposes raw ds ∧ b = ofSteps raw steps ∧
      List.Forall₂ (EachOperand fun o r => (o.StandsFor r ↔ ¬ o.IsMisread) ∧
        (o.IsMisread → r.isIndirect = true)) (ds.map (·.1)) steps := by
  obtain ⟨ds, steps, hds, hsteps, rfl⟩ := compile_eq_some_iff.1 h
  refine ⟨ds, steps, hds, rfl, (forall₂_of_compileAll hsteps).imp fun d s hs => ?_⟩
  refine (eachOperand_of_compile hs).mono fun o r hr => ⟨?_, ?_⟩
  · exact WrittenOperand.standsFor_iff_of_parse hr
  · exact WrittenOperand.isIndirect_of_isMisread hr

theorem eachOperand_of_single {P : WrittenOperand → Reference → Prop} {raw : Text} {base : Base}
    {op : Operator} {d : Directive} (hd : Decomposes raw [(d, false)])
    (h : ∃ ds steps, Decomposes raw ds ∧ ⟨raw, base, [op]⟩ = ofSteps raw steps ∧
      List.Forall₂ (EachOperand P) (ds.map (·.1)) steps)
    {i : Nat} {o : WrittenOperand} (ho : d.writtenOperands[i]? = some (some o)) :
    ∃ r, op.operands[i]? = some r ∧ P o r := by
  obtain ⟨ds, steps, hds, hbody, hall⟩ := h
  cases hds.unique hd
  cases hall with
  | @cons _ s _ _ hs hnil =>
    cases hnil
    obtain ⟨op', r, hop, hr, hP⟩ := hs i o ho
    have hoperators : [op] = [s].filterMap (·.operator) := congrArg Body.operators hbody
    simp only [List.filterMap_cons, hop, List.filterMap_nil, List.cons.injEq, and_true]
      at hoperators
    exact ⟨r, hoperators ▸ hr, hP⟩

/-- A format in which a parenthesis and a brace are escaped, and a zone in braces. -/
theorem compile_operands_zone :
    let raw := "date(h\\)\\\x7b)[\x7b2\x7d]".toText
    let format : WrittenOperand := ⟨"h\\)\\\x7b".toText, true⟩
    let zone : WrittenOperand := ⟨"\x7b2\x7d".toText, false⟩
    compile raw = .ok (some ⟨raw, .next, [.date (.literal (some "h)\x7b".toText)) (.fixed 2)]⟩) ∧
      format.StandsFor (.literal (some "h)\x7b".toText)) ∧ zone.StandsFor (.fixed 2) := by
  intro raw format zone
  have hcompile : compile raw =
      .ok (some ⟨raw, .next, [.date (.literal (some "h)\x7b".toText)) (.fixed 2)]⟩) := by
    decide +kernel
  have hread : Decomposes raw
      [(date false "date".toText (some (format.text, some zone.text)), false)] := by
    refine ⟨List.forall_mem_singleton.2 (.zone ?_ ?_ ?_), .singleton _, rfl⟩
    · simp [Spells, dateWord, Text.isLetterAnyCase]
    · exact .plain (by decide) (by decide) (.pair (by decide) (.pair (by decide) .nil))
    · exact .inr ⟨[.char '2'], List.forall_mem_singleton.2 (by decide), rfl⟩
  have hformat : ¬ format.IsMisread := by
    have hnone : Reference.indirectDigits? format.plain = none := by decide
    rw [WrittenOperand.isMisread_iff]
    exact fun h => Reference.indirectDigits?_eq_none_iff.1 hnone h.2
  have hzone : ¬ zone.IsMisread := by
    rw [WrittenOperand.isMisread_iff]
    exact fun h => h.1 ⟨[.char '2'], List.forall_mem_singleton.2 (by decide), rfl⟩
  obtain ⟨_, hfirst, hmeant⟩ :=
    eachOperand_of_single hread (compile_operands hcompile) (i := 0) (o := format) rfl
  obtain ⟨_, hsecond, hpointed⟩ :=
    eachOperand_of_single hread (compile_operands hcompile) (i := 1) (o := zone) rfl
  cases hfirst
  cases hsecond
  exact ⟨hcompile, hmeant.1.2 hformat, hpointed.1.2 hzone⟩

/-- A pattern of braces with a line feed behind them is no pattern but a position. -/
theorem compile_line_feed :
    compile "[/\x7b1\x7d\n/]".toText = .ok (some ⟨"[/\x7b1\x7d\n/]".toText, .next,
        [.extract (.fixed 1) (.literal (some []))]⟩) ∧
      ¬ ∀ (raw : Text) (b : Body), compile raw = .ok (some b) →
        ∃ ds steps, Decomposes raw ds ∧ b = ofSteps raw steps ∧
          List.Forall₂ (EachOperand fun o r => o.StandsFor r) (ds.map (·.1)) steps := by
  have hcompile : compile "[/\x7b1\x7d\n/]".toText = .ok (some ⟨"[/\x7b1\x7d\n/]".toText, .next,
      [.extract (.fixed 1) (.literal (some []))]⟩) := by decide +kernel
  refine ⟨hcompile, fun h => ?_⟩
  have hread : Decomposes "[/\x7b1\x7d\n/]".toText
      [(extract "\x7b1\x7d\n".toText [], false)] := by
    refine ⟨List.forall_mem_singleton.2 (.extract ?_ List.not_mem_nil), .singleton _, rfl⟩
    exact .plain (by decide) (by decide) (.plain (by decide) (by decide)
      (.plain (by decide) (by decide) (.plain (by decide) (by decide) .nil)))
  obtain ⟨_, hfirst, hmeant⟩ := eachOperand_of_single hread (h _ _ hcompile) (i := 0) rfl
  cases hfirst
  -- neither a position that is written without a line feed nor a literal
  generalize hfixed : Reference.fixed 1 = r at hmeant
  cases hmeant with
  | @position digits hdigits htext =>
    have hlast := congrArg List.getLast? htext
    rw [← List.cons_append, List.getLast?_concat] at hlast
    cases hlast
  | literal => cases hfixed

end Body

end BraceTemplate
