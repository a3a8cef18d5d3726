import BraceTemplate.Proofs.Concatenation
import BraceTemplate.Proofs.ExpansionFaults
import BraceTemplate.Proofs.ScanFaults

/-!
# BraceTemplate.Proofs.Acceptance

Specifiers and integers have two grammars: that of directives, which reads letters in any case, and
that of the evaluation, which does not. What is compiled is accepted where it is evaluated, with one
exception (`accepted_of_compile`): a directive's conversion letter may be a capital D, O or F, and
printf has these conversions in lower case only (`not_parsed_capital`). So no template fails because
of a literal bound or of an operand that is left out, and a specifier is unsupported only for its
letter.
-/

namespace BraceTemplate

/-! ## Specifiers -/

namespace Printf

/-- The capitals of the conversion letters that exist in lower case only. -/
def unusedCapitals : Text := ['D', 'O', 'F']

theorem Flag.isSome_ofChar? (c : CodePoint) : (ofChar? c).isSome = Directive.isPrintfFlag c := by
  unfold ofChar?
  split
  · rfl
  · rfl
  · rfl
  · rfl
  · rfl
  · rfl
  · rfl
  · simp only [Option.isSome_none, Directive.isPrintfFlag, Bool.false_eq, Bool.or_eq_false_iff,
      decide_eq_false_iff_not]
    tauto

namespace Specifier

/-- Both grammars take the same character as the flag. -/
theorem snd_splitFlag (t : Text) : (splitFlag t).2 = (Directive.splitFlag t).2 := by
  cases t with
  | nil => rfl
  | cons c t =>
    have hflag := Flag.isSome_ofChar? c
    rw [splitFlag, Directive.splitFlag, ← hflag]
    cases Flag.ofChar? c with
    | none => rfl
    | some f => rfl

/-- Both grammars take the same precision. -/
theorem snd_splitPrecision (t : Text) :
    (splitPrecision t).2 = (Directive.splitPrecision t).2 := by
  unfold splitPrecision
  split
  · rename_i t
    rw [Directive.splitPrecision, Directive.readRun?]
    simp only
    split
    · rfl
    · rfl
  · rename_i hpoint
    unfold Directive.splitPrecision
    split
    · exact absurd rfl (hpoint _)
    · rfl

theorem isSome_parse?_append {flag width precision : Text} {letter : CodePoint}
    (hf : Directive.IsFlag flag) (hw : ∀ c ∈ width, Text.isDecimal c = true)
    (hp : Directive.IsPrecision precision) (hl : Directive.IsConversionLetter letter) :
    (parse? ('%' :: (flag ++ (width ++ (precision ++ [letter]))))).isSome =
      (Conversion.ofLetter? letter).isSome := by
  obtain ⟨hnf, hnd, hnp⟩ := Directive.not_of_isConversionLetter hl
  have hstop : ∀ c ∈ (precision ++ [letter]).head?,
      Directive.isPrintfFlag c = false ∧ Text.isDecimal c = false := by
    intro c hc
    rcases hp with rfl | ⟨digits, _, rfl⟩
    · cases hc
      exact ⟨hnf, hnd⟩
    · cases hc
      decide
  obtain ⟨f, w, hsplit, hw', -⟩ := Directive.splitFlag_append hf hw hstop
  have hflag := snd_splitFlag (flag ++ (width ++ (precision ++ [letter])))
  rw [hsplit] at hflag
  have hprecision := snd_splitPrecision (precision ++ [letter])
  rw [Directive.splitPrecision_append hp (by simp [hnd, hnp])] at hprecision
  have hdrop := Text.dropWhile_append_of_stop hw' fun c hc => (hstop c hc).2
  simp only [parse?, hflag, hdrop, hprecision, lastLetter?, Option.isSome_map]

end Specifier

/-- An ASCII letter that directives read as one of a conversion is one, unless it is such a
capital. -/
theorem isSome_ofLetter?_iff {letter : CodePoint} (h : Directive.IsConversionLetter letter)
    (hascii : letter.toNat < 128) :
    (Conversion.ofLetter? letter).isSome = true ↔ letter ∉ unusedCapitals := by
  obtain ⟨l, hl, hcase⟩ := h
  have hletters : ∀ l ∈ Directive.printfLetters,
      ((Conversion.ofLetter? l).isSome = true ↔ l ∉ unusedCapitals) ∧
      ((Conversion.ofLetter? l.toUpper).isSome = true ↔ l.toUpper ∉ unusedCapitals) ∧
      l.toUpper.toNat + 32 = l.toNat := Directive.forall_mem_of_all (by decide)
  have hfolded : ∀ c ∈ Directive.foldedLetters, 128 ≤ c.toNat :=
    Directive.forall_mem_of_all (by decide)
  obtain ⟨hlower, hcapital, hupper⟩ := hletters l hl
  rcases Directive.spelling_of_isLetterAnyCase hcase with rfl | hc | ⟨-, hc⟩
  · exact hlower
  · have : letter = l.toUpper := CodePoint.toNat_inj.1 (by omega)
    rwa [this]
  · exact absurd hascii (Nat.not_lt.2 (hfolded letter hc))

/-- A text that ends in a conversion letter and is parsed unless the letter, if it is of ASCII, is
such a capital. -/
def IsCompiled (spec : Text) : Prop :=
  ∃ front letter, spec = front ++ [letter] ∧
    (letter.toNat < 128 →
      ((Specifier.parse? spec).isSome = true ↔ letter ∉ unusedCapitals))

theorem isCompiled_of_isSpecifier {spec : Text} (h : Directive.IsSpecifier spec) :
    IsCompiled spec := by
  cases h with
  | @intro flag width precision letter hf hw hp hl =>
    refine ⟨'%' :: (flag ++ (width ++ precision)), letter, by simp, fun hascii => ?_⟩
    rw [Specifier.isSome_parse?_append hf hw hp hl]
    exact isSome_ofLetter?_iff hl hascii

end Printf

/-! ## Bounds -/

namespace Number

theorem isIntegerText_of_isRun {t : Text} (h : Directive.IsRun Text.isDecimal t) :
    isIntegerText t = true := by
  obtain ⟨hne, hall⟩ := h
  have htake : t.takeWhile Text.isDecimal = t := List.takeWhile_eq_self_iff.2 hall
  have hdrop : t.dropWhile Text.isDecimal = [] := List.dropWhile_eq_nil_iff.2 hall
  unfold isIntegerText
  split
  · exact absurd (hall '-' List.mem_cons_self) (by decide)
  · exact absurd (hall '+' List.mem_cons_self) (by decide)
  · simp [htake, hdrop, hne]

theorem isIntegerText_minus {digits : Text} (h : Directive.IsRun Text.isDecimal digits) :
    isIntegerText ('-' :: digits) = true := by
  obtain ⟨hne, hall⟩ := h
  have htake : digits.takeWhile Text.isDecimal = digits := List.takeWhile_eq_self_iff.2 hall
  have hdrop : digits.dropWhile Text.isDecimal = [] := List.dropWhile_eq_nil_iff.2 hall
  simp [isIntegerText, htake, hdrop, hne]

end Number

namespace Reference

/-- An operand that points into the parameters, or the text of an integer. -/
def IsInteger (r : Reference) : Prop :=
  ∀ t, r = .literal t → ∃ s, t = some s ∧ Number.isIntegerText s = true

theorem isInteger_of_isIndirect {r : Reference} (h : r.isIndirect = true) : r.IsInteger := by
  rintro t rfl
  cases h

theorem isInteger_literal {s : Text} (h : Number.isIntegerText s = true) :
    (literal (some s)).IsInteger := by
  rintro t ht
  cases ht
  exact ⟨s, rfl, h⟩

theorem isIndirect_ofPosition (n : Int) : (ofPosition n).isIndirect = true := by
  unfold ofPosition
  split
  · rfl
  · rfl

theorem eq_literal_or_isIndirect_of_parse {t : Text} {r : Reference} (h : parse t = .ok r) :
    r = .literal (some t) ∧ indirectDigits? t = none ∨ r.isIndirect = true := by
  unfold parse at h
  split at h
  · rename_i hnone
    cases h
    exact .inl ⟨rfl, hnone⟩
  · split at h
    · cases h
    · cases h
      exact .inr (isIndirect_ofPosition _)

theorem indirectDigits?_ne_none {t : Text} (h : Directive.IsIndirect t) :
    indirectDigits? t ≠ none := by
  obtain ⟨digits, hdigits, rfl⟩ := h
  have hstop : ∀ c ∈ [CodePoint.char '\x7d'].head?, Text.isDecimal c = false := by
    intro c hc
    cases hc
    decide
  simp [indirectDigits?, Text.dropWhile_append_of_stop hdigits hstop]

theorem isInteger_of_parse {t : Text} {r : Reference} (ht : Directive.IsBound t)
    (h : parse t = .ok r) : r.IsInteger := by
  rcases eq_literal_or_isIndirect_of_parse h with ⟨rfl, hnone⟩ | hr
  · refine isInteger_literal ?_
    rcases ht with (hrun | hindirect) | ⟨digits, hrun, rfl⟩
    · exact Number.isIntegerText_of_isRun hrun
    · exact absurd hnone (indirectDigits?_ne_none hindirect)
    · exact Number.isIntegerText_minus hrun
  · exact isInteger_of_isIndirect hr

theorem IsInteger.run_resolveInteger_ne {r : Reference} (h : r.IsInteger) {ctx : Context}
    {n m : Nat} {got : Option Text} :
    (r.resolveInteger ctx).run n ≠ .error (.expansion (.notIntegerLiteral got)) m := by
  intro hrun
  cases hindirect : r.isIndirect with
  | false =>
    cases r with
    | next => cases hindirect
    | fixed i => cases hindirect
    | literal t =>
      obtain ⟨s, rfl, hs⟩ := h t rfl
      rw [resolveInteger, if_pos hs] at hrun
      exact Evaluation.run_ofFault_ne_expansion hrun
  | true =>
    rw [resolveInteger_of_isIndirect hindirect] at hrun
    have hnone : Evaluation.Among (fun _ => False) (r.valueOrEmpty ctx) :=
      among_valueOrEmpty ctx r
    rcases Evaluation.run_bind_eq_error_iff.1 hrun with hvalue | ⟨v, k, -, hvalue⟩
    · exact hnone n _ m hvalue
    · obtain ⟨herror, -⟩ := Evaluation.run_ofExcept_eq_error_iff.1 hvalue
      obtain ⟨text, htext⟩ := Value.among_toInteger v _ herror
      cases htext

end Reference

/-! ## Operators -/

namespace Operator

/-- What the evaluation of an operator asks of its literal operands, an unused capital as the
letter of a specifier apart. -/
def IsAccepted : Operator → Prop
  | slice start stop => start.IsInteger ∧ stop.IsInteger
  | sliceLength start length => start.IsInteger ∧ length.IsInteger
  | extract pattern group => pattern ≠ .literal none ∧ group ≠ .literal none
  | printf specifier => ∃ spec, specifier = .literal (some spec) ∧ Printf.IsCompiled spec
  | date pattern _ => pattern ≠ .literal none
  | _ => True

theorem isAccepted_of_codecOperator? {word : Text} {o : Operator}
    (h : Directive.codecOperator? word = some o) : o.IsAccepted := by
  unfold Directive.codecOperator? at h
  split at h
  all_goals
    cases h
  all_goals trivial

theorem isAccepted_of_dateOperator {format zone : Option Text} {o : Operator}
    (h : Directive.dateOperator format zone = .ok o) : o.IsAccepted := by
  simp only [Directive.dateOperator] at h
  split at h
  · cases h
  · rename_i hpattern
    split at h
    · cases h
      exact Reference.ne_none_of_parse hpattern
    · split at h
      · cases h
      · cases h
        exact Reference.ne_none_of_parse hpattern

/-- What a directive is compiled to is accepted, one case per form. -/
theorem isAccepted_of_directive {d : Directive} (hd : d.Written) {s : Step} (h : d.compile = .ok s)
    {o : Operator} (ho : s.operator = some o) : o.IsAccepted := by
  have dated : ∀ {isClock : Bool} {word : Text} {detail : Option (Text × Option Text)},
      (Directive.date isClock word detail).compile = .ok s → o.IsAccepted := by
    intro isClock word detail h
    simp only [Directive.compile] at h
    split at h
    · cases h
    · rename_i hdate
      cases h
      cases ho
      exact isAccepted_of_dateOperator hdate
  cases hd with
  | position hdigits =>
    simp only [Directive.compile] at h
    split at h
    · cases h
    · cases h
      cases ho
  | trim _ => cases h; cases ho; trivial
  | lower _ => cases h; cases ho; trivial
  | upper _ => cases h; cases ho; trivial
  | codec _ =>
    simp only [Directive.compile] at h
    split at h
    · rename_i hcodec
      cases h
      cases ho
      exact isAccepted_of_codecOperator? hcodec
    · cases h
  | start hstart =>
    simp only [Directive.compile] at h
    split at h
    · cases h
    · rename_i a ha
      cases h
      cases ho
      exact ⟨Reference.isInteger_of_parse (.inl hstart) ha, Reference.isInteger_literal (by decide)⟩
  | bounds hstart _ hbound =>
    obtain ⟨a, b, ha, hb, rfl⟩ := Directive.parses_of_ofOperands h
    have hbounds := And.intro (Reference.isInteger_of_parse (.inl hstart) ha)
      (Reference.isInteger_of_parse hbound hb)
    cases ho
    split
    · exact hbounds
    · exact hbounds
  | extract _ _ =>
    obtain ⟨a, b, ha, hb, rfl⟩ := Directive.parses_of_ofOperands h
    cases ho
    exact ⟨Reference.ne_none_of_parse ha, Reference.ne_none_of_parse hb⟩
  | printf hspec =>
    cases h
    cases ho
    exact ⟨_, rfl, Printf.isCompiled_of_isSpecifier hspec⟩
  | date _ => exact dated h
  | format _ _ => exact dated h
  | zone _ _ _ => exact dated h

theorem isAccepted_of_compile {raw : Text} {b : Body} (h : Body.compile raw = .ok (some b))
    {o : Operator} (ho : o ∈ b.operators) : o.IsAccepted := by
  obtain ⟨ds, steps, hds, hsteps, rfl⟩ := Body.compile_eq_some_iff.1 h
  obtain ⟨s, hs, hso⟩ := List.mem_filterMap.1 ho
  obtain ⟨d, hd, hcompile⟩ := Directive.exists_mem_of_compileAll hsteps hs
  obtain ⟨x, hx, rfl⟩ := List.mem_map.1 hd
  exact isAccepted_of_directive (hds.written x hx) hcompile hso

namespace IsAccepted

variable {ctx : Context} {o : Operator} {v : Value} {n m : Nat}

theorem hasOperands (h : o.IsAccepted) : o.HasOperands := by
  cases o with
  | extract pattern group => exact h.1
  | printf specifier =>
    obtain ⟨spec, rfl, -⟩ := h
    simp [HasOperands]
  | _ => trivial

theorem run_bounds_ne {a b : Reference} (h : a.IsInteger ∧ b.IsInteger)
    {f : Text → Int → Int → Text} {got : Option Text} :
    (do
      let text ← Evaluation.ofFault v.toText
      let i ← a.resolveInteger ctx
      let j ← b.resolveInteger ctx
      pure (f text i j) : Evaluation Text).run n ≠
        .error (.expansion (.notIntegerLiteral got)) m := by
  intro hrun
  rcases Evaluation.run_bind_eq_error_iff.1 hrun with htext | ⟨text, k, -, hrun⟩
  · exact Evaluation.run_ofFault_ne_expansion htext
  rcases Evaluation.run_bind_eq_error_iff.1 hrun with hfirst | ⟨i, k, -, hrun⟩
  · exact h.1.run_resolveInteger_ne hfirst
  rcases Evaluation.run_bind_eq_error_iff.1 hrun with hsecond | ⟨j, k, -, hrun⟩
  · exact h.2.run_resolveInteger_ne hsecond
  · cases hrun

theorem run_applyText_ne (h : o.IsAccepted) {got : Option Text} :
    (o.applyText ctx v).run n ≠ .error (.expansion (.notIntegerLiteral got)) m := by
  intro hrun
  have hraises : o.Raises (.notIntegerLiteral got) :=
    among_applyText ctx h.hasOperands v n _ m hrun
  cases o with
  | slice start stop => exact run_bounds_ne h hrun
  | sliceLength start length => exact run_bounds_ne h hrun
  | _ => exact hraises

theorem unsupported_of_applyText (h : o.IsAccepted) {spec : Text}
    (hrun : (o.applyText ctx v).run n =
      .error (.expansion (.conversion (.unsupportedSpecifier spec))) m) :
    o = .printf (.literal (some spec)) ∧ Printf.Specifier.parse? spec = none := by
  have hraises : o.Raises (.conversion (.unsupportedSpecifier spec)) :=
    among_applyText ctx h.hasOperands v n _ m hrun
  cases o with
  | printf specifier =>
    obtain ⟨written, rfl, -⟩ := h
    obtain ⟨hformat, -⟩ := Evaluation.run_ofExcept_eq_error_iff.1 hrun
    obtain ⟨rfl, hparse⟩ := Printf.unsupported_of_format hformat
    exact ⟨rfl, hparse⟩
  | _ => exact hraises.elim

end IsAccepted

end Operator

/-! ## Templates -/

namespace Scan

variable {template : Text}

theorem isAccepted_of_mem {e : Escape} {b : Body}
    (h : .replacement e b ∈ (scan template).tokens) {o : Operator} (ho : o ∈ b.operators) :
    o.IsAccepted :=
  Operator.isAccepted_of_compile (compile_raw_of_mem_scanFrom h) ho

/-- A run of the tokens of a template ends in an expansion error only in one of their operators,
which is accepted. -/
theorem exists_accepted_of_error {ctx : Context} {clock : Calendar.Moment} {block : Block}
    {n m : Nat} {e : ExpansionError}
    (h : (Token.runAll ctx clock (scan template).tokens block).run n = .error (.expansion e) m) :
    ∃ t ∈ (scan template).tokens, ∃ b, t.evaluated? = some b ∧ ∃ o ∈ b.operators, o.IsAccepted ∧
      ∃ v k, (o.applyText ctx v).run k = .error (.expansion e) m := by
  obtain ⟨o, v, k, happlies, herror⟩ := Token.exists_applies_of_error h
  obtain ⟨t, ht, b, hb, ho⟩ := happlies.exists_mem
  obtain ⟨escape, -, rfl⟩ := Token.exists_replacement hb
  exact ⟨_, ht, b, hb, o, ho, isAccepted_of_mem ht ho, v, k, herror⟩

theorem run_runAll_ne_absentText {ctx : Context} {clock : Calendar.Moment} {block : Block}
    {n m : Nat} :
    (Token.runAll ctx clock (scan template).tokens block).run n ≠
      .error (.fault .absentText) m := by
  intro h
  have hoperands : ∀ e b, .replacement e b ∈ (scan template).tokens →
      ∀ o ∈ b.operators, o.HasOperands := fun e b hmem o ho =>
    (isAccepted_of_mem hmem ho).hasOperands
  exact Token.among_runAll ctx clock hoperands block n _ m h rfl

theorem fault_ne_absentText : (scan template).fault ≠ some .absentText := by
  intro h
  obtain ⟨rest, -, hfirst⟩ := scan_fault_iff.1 h
  obtain ⟨d, -, hobstructed⟩ := hfirst.exists_mem
  cases hobstructed

end Scan

/-- What is compiled is accepted where it is evaluated, unused capitals apart. So an expansion does
not refuse a literal bound and does not miss an operand, and a specifier that it does not support
stands in one of the tokens that are evaluated and ends in an unused capital, or in no letter of
ASCII. -/
theorem accepted_of_compile :
    (∀ raw b, Body.compile raw = .ok (some b) → ∀ o ∈ b.operators, o.IsAccepted) ∧
    ∀ settings clock template parameters e,
      expand settings clock template parameters = .error e →
        (∀ got, e ≠ .expansion (.notIntegerLiteral got)) ∧
        e ≠ .fault .absentText ∧
        ∀ spec, e = .expansion (.conversion (.unsupportedSpecifier spec)) →
          ∃ t ∈ (scan template).tokens, ∃ b, t.evaluated? = some b ∧
            .printf (.literal (some spec)) ∈ b.operators ∧
            ∃ front letter, spec = front ++ [letter] ∧
              (letter.toNat < 128 → letter ∈ Printf.unusedCapitals) := by
  refine ⟨fun raw b h o => Operator.isAccepted_of_compile h, ?_⟩
  intro settings clock template parameters e h
  unfold expand at h
  simp only at h
  split at h
  · rename_i hrun
    cases h
    refine ⟨?_, ?_, ?_⟩
    · rintro got rfl
      obtain ⟨t, -, b, -, o, -, haccepted, v, k, herror⟩ := Scan.exists_accepted_of_error hrun
      exact haccepted.run_applyText_ne herror
    · rintro rfl
      exact Scan.run_runAll_ne_absentText hrun
    · rintro spec rfl
      obtain ⟨t, ht, b, hb, o, ho, haccepted, v, k, herror⟩ := Scan.exists_accepted_of_error hrun
      obtain ⟨rfl, hparse⟩ := haccepted.unsupported_of_applyText herror
      obtain ⟨_, hspec, front, letter, rfl, hletter⟩ := haccepted
      cases hspec
      refine ⟨t, ht, b, hb, ho, front, letter, rfl, fun hascii => ?_⟩
      by_contra hused
      exact Option.isSome_iff_ne_none.1 ((hletter hascii).2 hused) hparse
  · split at h
    · rename_i hfault
      cases h
      refine ⟨nofun, ?_, nofun⟩
      intro habsent
      cases habsent
      exact Scan.fault_ne_absentText hfault
    · cases h

/-- Three operators whose operands are accepted, and an expansion that ends at a capital F. -/
theorem accepted_of_compile_capital :
    let raw := "[{},-3]%-8.2e,date(HH)".toText
    let operators := [.slice .next (.literal (some "-3".toText)),
      .printf (.literal (some "%-8.2e".toText)),
      .date (.literal (some "HH".toText)) (.literal none)]
    let template := "a{[/a/]%.2F}".toText
    Body.compile raw = .ok (some ⟨raw, .next, operators⟩) ∧ (∀ o ∈ operators, o.IsAccepted) ∧
      expand {} ⟨0, some 0⟩ template [] =
        .error (.expansion (.conversion (.unsupportedSpecifier "%.2F".toText))) ∧
      ∃ t ∈ (scan template).tokens, ∃ b, t.evaluated? = some b ∧
        .printf (.literal (some "%.2F".toText)) ∈ b.operators := by
  intro raw operators template
  have hcompile : Body.compile raw = .ok (some ⟨raw, .next, operators⟩) := by decide +kernel
  have hexpand : expand {} ⟨0, some 0⟩ template [] =
      .error (.expansion (.conversion (.unsupportedSpecifier "%.2F".toText))) := by decide +kernel
  obtain ⟨t, ht, b, hb, hprintf, -⟩ := (accepted_of_compile.2 _ _ _ _ _ hexpand).2.2 _ rfl
  exact ⟨hcompile, accepted_of_compile.1 _ _ hcompile, hexpand, t, ht, b, hb, hprintf⟩

/-- Not every specifier that is compiled is parsed. -/
theorem not_parsed_capital : ¬ ∀ (raw : Text) (b : Body), Body.compile raw = .ok (some b) →
    ∀ spec, .printf (.literal (some spec)) ∈ b.operators →
      (Printf.Specifier.parse? spec).isSome = true := by
  intro h
  have hcapital := h "%F".toText ⟨"%F".toText, .next, [.printf (.literal (some "%F".toText))]⟩
    (by decide +kernel) "%F".toText List.mem_cons_self
  exact absurd hcapital (by decide)

end BraceTemplate
