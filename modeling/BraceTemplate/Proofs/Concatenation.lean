import BraceTemplate.Proofs.Composition

/-!
# BraceTemplate.Proofs.Concatenation

Bodies in a row. Two bodies with a comma between them are one body, with the operators of both in
order and with the base of the second one if it chooses one. Without the comma they are the same
body, unless the last directive of the first one runs on into the second one: a position into
digits, or a format without a zone into a zone. Neither depends on the case of the keywords
(`compile_row`).
-/

namespace BraceTemplate

namespace Directive

/-- Whether a directive chooses the base of its body: a position, or the current time. -/
def choosesBase : Directive → Bool
  | position _ => true
  | date isClock _ _ => isClock
  | _ => false

theorem isSome_base_of_compile {d : Directive} {s : Step} (h : d.compile = .ok s) :
    s.base.isSome = d.choosesBase := by
  have operands : ∀ {operator : Reference → Reference → Operator} {first second : Text},
      ofOperands operator first second = .ok s → s.base = none := by
    intro operator first second h
    unfold ofOperands at h
    split at h
    · cases h
    · split at h
      · cases h
      · cases h
        rfl
  cases d with
  | position digits =>
    simp only [compile] at h
    split at h
    · cases h
    · cases h
      rfl
  | trim w =>
    cases h
    rfl
  | lower w =>
    cases h
    rfl
  | upper w =>
    cases h
    rfl
  | codec w =>
    simp only [compile] at h
    split at h
    · cases h
      rfl
    · cases h
  | substring start bound =>
    rcases bound with _ | ⟨mark, bound⟩
    · simp only [compile] at h
      split at h
      · cases h
      · cases h
        rfl
    · rw [operands h]
      rfl
  | extract pattern group =>
    rw [operands h]
    rfl
  | printf specifier =>
    cases h
    rfl
  | date isClock w detail =>
    simp only [compile] at h
    split at h
    · cases h
    · cases h
      cases isClock with
      | false => rfl
      | true => rfl

theorem compileAll_cons_eq_ok_iff {d : Directive} {ds : List Directive} {steps : List Step} :
    compileAll (d :: ds) = .ok steps ↔
      ∃ s ss, d.compile = .ok s ∧ compileAll ds = .ok ss ∧ steps = s :: ss := by
  rw [compileAll]
  cases d.compile with
  | error f => simp
  | ok s =>
    cases compileAll ds with
    | error f => simp
    | ok ss => simp [eq_comm]

theorem compileAll_append {ds es : List Directive} {ss ts : List Step}
    (hd : compileAll ds = .ok ss) (he : compileAll es = .ok ts) :
    compileAll (ds ++ es) = .ok (ss ++ ts) := by
  induction ds generalizing ss with
  | nil =>
    cases hd
    exact he
  | cons d ds ih =>
    obtain ⟨s, ss, hs, hss, rfl⟩ := compileAll_cons_eq_ok_iff.1 hd
    exact compileAll_cons_eq_ok_iff.2 ⟨s, ss ++ ts, hs, ih hss, rfl⟩

theorem filterMap_base_eq_nil_iff {ds : List Directive} {ss : List Step}
    (h : compileAll ds = .ok ss) :
    ss.filterMap (·.base) = [] ↔ ∀ d ∈ ds, d.choosesBase = false := by
  induction ds generalizing ss with
  | nil =>
    cases h
    simp
  | cons d ds ih =>
    obtain ⟨s, ss, hs, hss, rfl⟩ := compileAll_cons_eq_ok_iff.1 h
    rw [List.forall_mem_cons, ← ih hss, ← isSome_base_of_compile hs, List.filterMap_cons]
    cases s.base with
    | none => simp
    | some b => simp

/-! ## The case of keywords -/

/-- The same letters; only the case of ASCII letters may differ. -/
def SameLetters (w w' : Text) : Prop := w.map CodePoint.toLower = w'.map CodePoint.toLower

/-- Directives that differ in the case of a keyword at most. -/
inductive Recased : Directive → Directive → Prop where
  | same {d : Directive} : Recased d d
  | trim {w w' : Text} (h : SameLetters w w') : Recased (trim w) (trim w')
  | lower {w w' : Text} (h : SameLetters w w') : Recased (lower w) (lower w')
  | upper {w w' : Text} (h : SameLetters w w') : Recased (upper w) (upper w')
  | codec {w w' : Text} (h : SameLetters w w') : Recased (codec w) (codec w')
  | date {isClock : Bool} {w w' : Text} {detail : Option (Text × Option Text)}
      (h : SameLetters w w') : Recased (date isClock w detail) (date isClock w' detail)

theorem eq_of_toLower_of_not_ascii {c d : CodePoint} (h : c.toLower = d) (hd : 128 ≤ d.toNat) :
    c = d := by
  rcases eq_or_toNat_of_toLower h with hc | hc
  · exact hc
  · omega

theorem isLetterAnyCase_congr {c c' : CodePoint} (h : c.toLower = c'.toLower) (letter : CodePoint) :
    Text.isLetterAnyCase letter c = Text.isLetterAnyCase letter c' := by
  have hself : ∀ d ∈ foldedLetters, d.toLower = d ∧ 128 ≤ d.toNat := forall_mem_of_all (by decide)
  have hfolded : ∀ d ∈ foldedLetters, (c = d) = (c' = d) := by
    intro d hd
    obtain ⟨hlower, hascii⟩ := hself d hd
    rw [eq_iff_iff]
    constructor
    · rintro rfl
      exact eq_of_toLower_of_not_ascii (h.symm.trans hlower) hascii
    · rintro rfl
      exact eq_of_toLower_of_not_ascii (h.trans hlower) hascii
  simp only [foldedLetters, List.mem_cons, List.not_mem_nil, or_false, forall_eq_or_imp,
    forall_eq] at hfolded
  simp only [Text.isLetterAnyCase, h, hfolded]

theorem SameLetters.spells {word w w' : Text} (h : SameLetters w w') (hw : Spells word w) :
    Spells word w' := by
  induction hw generalizing w' with
  | nil =>
    rw [List.map_eq_nil_iff.1 h.symm]
    exact .nil
  | cons hc _ ih =>
    obtain ⟨c', v, rfl, hc', hv⟩ := List.map_eq_cons_iff.1 h.symm
    exact .cons (by rwa [isLetterAnyCase_congr hc']) (ih hv.symm)

theorem SameLetters.spellsAny {words : List String} {w w' : Text} (h : SameLetters w w')
    (hw : SpellsAny words w) : SpellsAny words w' := by
  obtain ⟨x, hx, hs⟩ := hw
  exact ⟨x, hx, h.spells hs⟩

namespace Recased

variable {d d' : Directive} (h : d.Recased d')

include h

theorem written (hd : d.Written) : d'.Written := by
  cases h with
  | same => exact hd
  | trim h =>
    cases hd with
    | trim hw => exact .trim (h.spellsAny hw)
  | lower h =>
    cases hd with
    | lower hw => exact .lower (h.spellsAny hw)
  | upper h =>
    cases hd with
    | upper hw => exact .upper (h.spellsAny hw)
  | codec h =>
    cases hd with
    | codec hw => exact .codec (h.spellsAny hw)
  | date h =>
    cases hd with
    | date hw => exact .date (h.spells hw)
    | format hw hf => exact .format (h.spells hw) hf
    | zone hw hf hz => exact .zone (h.spells hw) hf hz

theorem compile_eq : d'.compile = d.compile := by
  cases h with
  | codec h =>
    rw [SameLetters] at h
    simp only [compile, codecOperator?, h]
  | _ => rfl

theorem runsOn_iff (t : Text) : d'.RunsOn t ↔ d.RunsOn t := by
  cases h with
  | @date _ _ _ detail =>
    match detail with
    | none => exact Iff.rfl
    | some (_, none) => exact Iff.rfl
    | some (_, some _) => exact Iff.rfl
  | _ => exact Iff.rfl

theorem runsOn_source_iff (hd : d.Written) (e : Directive) :
    e.RunsOn d'.source ↔ e.RunsOn d.source := by
  have keyword : ∀ {f : Directive}, f.Written → (∀ c, f.leads c = keywordHeads.contains c) →
      ¬ e.RunsOn f.source := by
    intro f hf hleads
    obtain ⟨c, t, hsource, hc⟩ := source_eq_cons hf
    rw [hleads, List.contains_iff_mem] at hc
    have hmarks : ∀ x ∈ keywordHeads, x ≠ '(' ∧ x ≠ '[' := forall_mem_of_all (by decide)
    rw [hsource]
    exact not_runsOn_cons (isDecimal_keywordHeads c hc) (hmarks c hc).1 (hmarks c hc).2
  have hd' := h.written hd
  cases h with
  | same => exact Iff.rfl
  | trim => exact iff_of_false (keyword hd' fun _ => rfl) (keyword hd fun _ => rfl)
  | lower => exact iff_of_false (keyword hd' fun _ => rfl) (keyword hd fun _ => rfl)
  | upper => exact iff_of_false (keyword hd' fun _ => rfl) (keyword hd fun _ => rfl)
  | codec => exact iff_of_false (keyword hd' fun _ => rfl) (keyword hd fun _ => rfl)
  | date => exact iff_of_false (keyword hd' fun _ => rfl) (keyword hd fun _ => rfl)

end Recased

end Directive

namespace Body

open Directive

/-! ## Bodies in a row -/

theorem compile_eq_some_iff {raw : Text} {b : Body} :
    compile raw = .ok (some b) ↔ ∃ ds steps, Decomposes raw ds ∧
      compileAll (ds.map (·.1)) = .ok steps ∧ b = ofSteps raw steps :=
  (compile_eq_some_iff_parse (s := [])).trans parse_append_eq_some_iff

namespace Decomposes

variable {a b raw : Text} {ds es : List (Directive × Bool)}

theorem unique (h : Decomposes raw ds) (h' : Decomposes raw es) : ds = es := by
  have hds := readDirectives_append h.written h.apart []
  have hes := readDirectives_append h'.written h'.apart []
  rw [h.source_eq] at hds
  rw [h'.source_eq, hds] at hes
  exact congrArg Prod.fst hes

theorem append (ha : Decomposes a ds) (hb : Decomposes b es)
    (hapart : ∀ x ∈ ds.getLast?, ∀ y ∈ es.head?, Apart x y) : Decomposes (a ++ b) (ds ++ es) where
  written := List.forall_mem_append.2 ⟨ha.written, hb.written⟩
  apart := List.isChain_append.2 ⟨ha.apart, hb.apart, hapart⟩
  source_eq := by
    rw [← ha.source_eq, ← hb.source_eq]
    exact List.flatMap_append

/-- A comma may be put behind the last directive. -/
theorem comma {d : Directive} (h : Decomposes a (ds ++ [(d, false)])) :
    Decomposes (a ++ [.char ',']) (ds ++ [(d, true)]) where
  written := by
    obtain ⟨hds, hd⟩ := List.forall_mem_append.1 h.written
    refine List.forall_mem_append.2 ⟨hds, fun x hx => ?_⟩
    cases List.mem_singleton.1 hx
    exact hd (d, false) (List.mem_singleton.2 rfl)
  apart := by
    obtain ⟨hds, -, hlast⟩ := List.isChain_append.1 h.apart
    refine List.isChain_append.2 ⟨hds, .singleton _, fun x hx y hy => ?_⟩
    cases hy
    exact hlast x hx (d, false) rfl
  source_eq := by
    rw [← h.source_eq]
    simp [source]

theorem exists_last (h : Decomposes raw ds) (hne : raw ≠ [])
    (hcomma : raw.getLast? ≠ some (.char ',')) :
    ∃ es d, ds = es ++ [(d, false)] := by
  obtain rfl | ⟨es, ⟨d, comma⟩, rfl⟩ := List.eq_nil_or_concat' ds
  · exact absurd h.source_eq.symm hne
  · cases comma with
    | false => exact ⟨es, d, rfl⟩
    | true =>
      refine absurd ?_ hcomma
      rw [← h.source_eq]
      simp [source, ← List.append_assoc]

end Decomposes

/-- A position or the current time is among the directives of a body. -/
def ChoosesBase (raw : Text) : Prop :=
  ∃ ds, Decomposes raw ds ∧ ∃ x ∈ ds, x.1.choosesBase = true

/-- A directive is the last one of a body, and no comma stands behind it. -/
def EndsWith (raw : Text) (d : Directive) : Prop := ∃ ds, Decomposes raw (ds ++ [(d, false)])

/-- The third body does what the first two do in a row: the last base that is chosen wins. -/
structure IsRow (a b c : Body) : Prop where
  operators : c.operators = a.operators ++ b.operators
  base_of_choosesBase : ChoosesBase b.raw → c.base = b.base
  base_of_not_choosesBase : ¬ ChoosesBase b.raw → c.base = a.base

theorem isRow_ofSteps {a b : Text} {es : List (Directive × Bool)} {ss ts : List Step}
    (hb : Decomposes b es) (hts : compileAll (es.map (·.1)) = .ok ts) (raw : Text) :
    IsRow (ofSteps a ss) (ofSteps b ts) (ofSteps raw (ss ++ ts)) := by
  have hchooses : ¬ ChoosesBase b ↔ ts.filterMap (·.base) = [] := by
    rw [filterMap_base_eq_nil_iff hts]
    constructor
    · intro h d hd
      obtain ⟨x, hx, rfl⟩ := List.mem_map.1 hd
      by_contra hne
      exact h ⟨es, hb, x, hx, by simpa using hne⟩
    · rintro h ⟨es', hb', x, hx, hchooses⟩
      rw [hb'.unique hb] at hx
      rw [h x.1 (List.mem_map_of_mem hx)] at hchooses
      cases hchooses
  refine ⟨by simp [ofSteps], fun h => ?_, fun h => ?_⟩
  · have hne : ts.filterMap (·.base) ≠ [] := fun hnil => hchooses.2 hnil h
    simp [ofSteps, List.getLast?_append_of_ne_nil _ hne]
  · simp [ofSteps, hchooses.1 h]

theorem exists_isRow {a b raw : Text} {A B : Body} {ds ds' es : List (Directive × Bool)}
    (ha : Decomposes a ds) (hA : compile a = .ok (some A)) (hb : Decomposes b es)
    (hB : compile b = .ok (some B)) (hsame : ds'.map (·.1) = ds.map (·.1))
    (hraw : Decomposes raw (ds' ++ es)) :
    ∃ C, compile raw = .ok (some C) ∧ IsRow A B C := by
  obtain ⟨ds₁, ss, hds, hss, rfl⟩ := compile_eq_some_iff.1 hA
  obtain ⟨es₁, ts, hes, hts, rfl⟩ := compile_eq_some_iff.1 hB
  cases hds.unique ha
  cases hes.unique hb
  have hsteps : compileAll ((ds' ++ es).map (·.1)) = .ok (ss ++ ts) := by
    rw [List.map_append, hsame]
    exact compileAll_append hss hts
  exact ⟨_, compile_eq_some_iff.2 ⟨_, _, hraw, hsteps, rfl⟩, isRow_ofSteps hb hts raw⟩

theorem exists_isRow_comma {a b : Text} {A B : Body} {d : Directive}
    {ds es : List (Directive × Bool)} (ha : Decomposes a (ds ++ [(d, false)]))
    (hA : compile a = .ok (some A)) (hb : Decomposes b es) (hB : compile b = .ok (some B)) :
    ∃ C, compile (a ++ .char ',' :: b) = .ok (some C) ∧ IsRow A B C := by
  have hraw := ha.comma.append hb (by
    intro x hx y _ hflag
    rw [List.getLast?_concat] at hx
    cases hx
    cases hflag)
  rw [List.append_assoc, List.singleton_append] at hraw
  exact exists_isRow ha hA hb hB (by simp) hraw

/-- A position at the end of the first body runs on into a digit at the start of the second. -/
def SharesDigits (a b : Text) : Prop :=
  (∃ digits, EndsWith a (.position digits)) ∧ ∃ c t, Text.isDecimal c = true ∧ b = c :: t

/-- A format without a zone at the end of the first body takes one from the start of the second. -/
def TakesZone (a b : Text) : Prop :=
  (∃ isClock w format, EndsWith a (.date isClock w (some (format, none)))) ∧ BeginsZone b

theorem exists_isRow_append {a b : Text} {A B : Body} {d : Directive}
    {ds es : List (Directive × Bool)} (ha : Decomposes a (ds ++ [(d, false)]))
    (hA : compile a = .ok (some A)) (hb : Decomposes b es) (hB : compile b = .ok (some B))
    (hdigits : ¬ SharesDigits a b) (hzone : ¬ TakesZone a b) :
    ∃ C, compile (a ++ b) = .ok (some C) ∧ IsRow A B C := by
  refine exists_isRow ha hA hb hB rfl (ha.append hb fun x hx y hy _ hrun => ?_)
  rw [List.getLast?_concat] at hx
  cases hx
  obtain ⟨rest, rfl⟩ := List.head?_eq_some_iff.1 hy
  obtain ⟨e, comma⟩ := y
  have he : e.Written := hb.written (e, comma) List.mem_cons_self
  have hsource := hb.source_eq
  rw [source_cons] at hsource
  rcases runsOn_source_cases he hrun with ⟨digits, c, t, rfl, hc, ht⟩ | ⟨k, w, format, rfl, hz⟩
  · rw [ht, List.cons_append] at hsource
    exact hdigits ⟨⟨digits, ds, ha⟩, c, _, hc, hsource.symm⟩
  · refine hzone ⟨⟨k, w, format, ds, ha⟩, ?_⟩
    rw [← hsource, beginsZone_source_append he]
    exact hz

/-! ## Bodies in another case -/

/-- The same directives and commas; the case of keywords may differ. -/
def RecasedAll (ds es : List (Directive × Bool)) : Prop :=
  List.Forall₂ (fun x y => x.1.Recased y.1 ∧ x.2 = y.2) ds es

theorem RecasedAll.decomposes {raw : Text} {ds es : List (Directive × Bool)}
    (h : RecasedAll ds es) (hds : Decomposes raw ds) : Decomposes (source es) es := by
  suffices hes : (∀ y ∈ es, y.1.Written) ∧ es.IsChain Apart from ⟨hes.1, hes.2, rfl⟩
  replace hds := And.intro hds.written hds.apart
  induction h with
  | nil => exact ⟨by simp, .nil⟩
  | @cons x y ds es hxy hrest ih =>
    obtain ⟨hwritten, hapart⟩ := hds
    obtain ⟨hx, hds⟩ := List.forall_mem_cons.1 hwritten
    obtain ⟨hhead, htail⟩ := List.isChain_cons.1 hapart
    obtain ⟨ihwritten, ihapart⟩ := ih ⟨hds, htail⟩
    refine ⟨List.forall_mem_cons.2 ⟨hxy.1.written hx, ihwritten⟩,
      List.isChain_cons.2 ⟨?_, ihapart⟩⟩
    intro y' hy' hflag hrun
    cases hrest with
    | nil => cases hy'
    | @cons x' _ ds' _ hxy' _ =>
      cases hy'
      refine hhead x' rfl (hxy.2.trans hflag) ?_
      rw [hxy.1.runsOn_iff, hxy'.1.runsOn_source_iff (hds x' List.mem_cons_self)] at hrun
      exact hrun

theorem RecasedAll.compileAll_eq {ds es : List (Directive × Bool)} (h : RecasedAll ds es) :
    compileAll (es.map (·.1)) = compileAll (ds.map (·.1)) := by
  induction h with
  | nil => rfl
  | cons hxy _ ih => simp only [List.map_cons, compileAll, hxy.1.compile_eq, ih]

/-- The body in another case differs in what is written only. -/
theorem RecasedAll.compile_source {raw : Text} {b : Body} {ds es : List (Directive × Bool)}
    (h : RecasedAll ds es) (hds : Decomposes raw ds) (hb : compile raw = .ok (some b)) :
    compile (source es) = .ok (some ⟨source es, b.base, b.operators⟩) := by
  obtain ⟨ds₁, steps, hds₁, hsteps, rfl⟩ := compile_eq_some_iff.1 hb
  cases hds₁.unique hds
  refine compile_eq_some_iff.2 ⟨es, steps, h.decomposes hds, ?_, rfl⟩
  rw [h.compileAll_eq, hsteps]

/-- Two bodies with a comma between them are one body, which does what they do in a row, and so are
they without the comma, unless the first one runs on into the second. What a body does is the same
in any case of its keywords. -/
theorem compile_row {a : Text} {A : Body} (hA : compile a = .ok (some A)) :
    (∀ b B, compile b = .ok (some B) → a ≠ [] → a.getLast? ≠ some (.char ',') →
      (∃ C, compile (a ++ .char ',' :: b) = .ok (some C) ∧ IsRow A B C) ∧
      (¬ SharesDigits a b → ¬ TakesZone a b →
        ∃ C, compile (a ++ b) = .ok (some C) ∧ IsRow A B C)) ∧
    ∃ ds, Decomposes a ds ∧ ∀ es, RecasedAll ds es →
      compile (source es) = .ok (some ⟨source es, A.base, A.operators⟩) := by
  obtain ⟨ds, steps, hds, hsteps, hbody⟩ := compile_eq_some_iff.1 hA
  refine ⟨fun b B hB hne hcomma => ?_, ds, hds, fun es hes => hes.compile_source hds hA⟩
  obtain ⟨es, _, hes, _, _⟩ := compile_eq_some_iff.1 hB
  obtain ⟨front, d, rfl⟩ := hds.exists_last hne hcomma
  exact ⟨exists_isRow_comma hds hA hes hB, exists_isRow_append hds hA hes hB⟩

/-- A body that is read as two others in a row, with and without a comma, and its first part in
upper case. -/
theorem compile_row_clock :
    (∃ C, compile "2upper,now(x)".toText = .ok (some C) ∧
      IsRow ⟨"2upper".toText, .position 2, [.upper]⟩
        ⟨"now(x)".toText, .clock, [.date (.literal (some ['x'])) (.literal none)]⟩ C) ∧
    (∃ C, compile "2uppernow(x)".toText = .ok (some C) ∧
      IsRow ⟨"2upper".toText, .position 2, [.upper]⟩
        ⟨"now(x)".toText, .clock, [.date (.literal (some ['x'])) (.literal none)]⟩ C) ∧
    compile "2UPPER".toText = .ok (some ⟨"2UPPER".toText, .position 2, [.upper]⟩) := by
  obtain ⟨hrow, ds, hds, hrecased⟩ := compile_row (a := "2upper".toText)
    (A := ⟨"2upper".toText, .position 2, [.upper]⟩) (by decide +kernel)
  obtain ⟨hcomma, hjoined⟩ := hrow "now(x)".toText
    ⟨"now(x)".toText, .clock, [.date (.literal (some ['x'])) (.literal none)]⟩
    (by decide +kernel) (by decide) (by decide)
  refine ⟨hcomma, hjoined ?_ ?_, ?_⟩
  · rintro ⟨_, c, t, hc, h⟩
    cases h
    revert hc
    decide
  · rintro ⟨_, zone, rest, _, h⟩
    cases h
  · have hupper : (upper "upper".toText).Written := by
      refine .upper ⟨"upper", by simp, ?_⟩
      simp [Spells, Text.isLetterAnyCase]
    have hread : Decomposes "2upper".toText
        [(position ['2'], false), (upper "upper".toText, false)] := by
      refine ⟨?_, .cons_cons (fun _ => ?_) (.singleton _), rfl⟩
      · refine List.forall_mem_cons.2 ⟨.position ?_, List.forall_mem_singleton.2 hupper⟩
        exact ⟨by simp, List.forall_mem_singleton.2 (by decide)⟩
      · exact not_runsOn_cons (by decide) (by decide) (by decide)
    cases hds.unique hread
    exact hrecased [(position ['2'], false), (upper "UPPER".toText, false)]
      (.cons ⟨.same, rfl⟩ (.cons ⟨.upper rfl, rfl⟩ .nil))

end Body

end BraceTemplate
