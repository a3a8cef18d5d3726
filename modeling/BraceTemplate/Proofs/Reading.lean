import BraceTemplate.Proofs.Keyword
import BraceTemplate.Proofs.Operand

/-!
# BraceTemplate.Proofs.Reading

Reading one directive. `read?_eq_some_iff`: a directive is read from a text just when it is of a
form of the grammar, the text begins with its source and it does not run on into what follows.
-/

namespace BraceTemplate

namespace Directive

/-! ## Brackets -/

theorem ne_slash_of_isOperand {start t u : Text} (hs : IsOperand Text.isDecimal start) :
    start ++ t ≠ .char '/' :: u := by
  intro h
  cases hs with
  | inl hrun =>
    obtain ⟨c, v, rfl⟩ := List.exists_cons_of_ne_nil hrun.1
    cases h
    exact absurd (hrun.2 '/' (by simp)) (by decide)
  | inr hind =>
    obtain ⟨digits, _, rfl⟩ := hind
    cases h

theorem readBrackets?_start {start : Text} (hs : IsOperand Text.isDecimal start) (rest : Text) :
    readBrackets? (.char '[' :: (start ++ .char ']' :: rest)) =
      some (substring start none, rest) := by
  have hop : readOperand? Text.isDecimal (start ++ .char ']' :: rest) =
      some (start, .char ']' :: rest) := by
    refine readOperand?_append (by decide) hs ?_
    intro c hc
    cases hc
    decide
  rw [readBrackets?]
  · rw [hop]
    rfl
  · exact fun u hu => ne_slash_of_isOperand hs hu

theorem readBrackets?_bounds {start bound : Text} {mark : CodePoint}
    (hs : IsOperand Text.isDecimal start) (hm : mark = ',' ∨ mark = ':') (hb : IsBound bound)
    (rest : Text) :
    readBrackets? (.char '[' :: (start ++ mark :: (bound ++ .char ']' :: rest))) =
      some (substring start (some (mark, bound)), rest) := by
  have hstop : Text.isDecimal mark = false ∧ mark ≠ ']' := by
    rcases hm with rfl | rfl <;> decide
  have hop : readOperand? Text.isDecimal (start ++ mark :: (bound ++ .char ']' :: rest)) =
      some (start, mark :: (bound ++ .char ']' :: rest)) := by
    refine readOperand?_append (by decide) hs ?_
    intro c hc
    cases hc
    exact hstop.1
  have hbound : readBound? (bound ++ .char ']' :: rest) = some (bound, .char ']' :: rest) := by
    refine readBound?_append hb ?_
    intro c hc
    cases hc
    decide
  rw [readBrackets?]
  · rw [hop]
    simp [hstop.2, hm, hbound]
  · exact fun u hu => ne_slash_of_isOperand hs hu

theorem readBrackets?_extract {pattern group : Text} (hp : IsEscaped '/' pattern)
    (hg : .char ']' ∉ group) (rest : Text) :
    readBrackets?
      (.char '[' :: .char '/' :: (pattern ++ .char '/' :: (group ++ .char ']' :: rest))) =
      some (extract pattern group, rest) := by
  simp only [readBrackets?, readEscaped?_append (by decide) hp,
    readGroup?_eq_some_iff.2 ⟨hg, rfl⟩]

theorem written_of_readBrackets? {t rest : Text} {d : Directive}
    (h : readBrackets? t = some (d, rest)) : d.Written ∧ ∀ u, ¬ d.RunsOn u := by
  unfold readBrackets? at h
  split at h
  · split at h
    · rename_i hp
      split at h
      · rename_i hg
        cases h
        exact ⟨.extract (isEscaped_of_readEscaped? hp).1 (readGroup?_eq_some_iff.1 hg).1,
          fun u => id⟩
      · cases h
    · cases h
  · split at h
    · rename_i hs
      cases h
      exact ⟨.start (isOperand_of_readOperand? hs).1, fun u => id⟩
    · rename_i hs
      split at h
      · rename_i hm
        split at h
        · rename_i hb
          cases h
          exact ⟨.bounds (isOperand_of_readOperand? hs).1 hm (isBound_of_readBound? hb).1,
            fun u => id⟩
        · cases h
      · cases h
    · cases h
  · cases h

theorem readBrackets?_eq_none_of_head {c : CodePoint} {t : Text} (h : c ≠ '[') :
    readBrackets? (c :: t) = none := by
  unfold readBrackets?
  split
  · rename_i ht
    cases ht
    exact absurd rfl h
  · rename_i ht
    cases ht
    exact absurd rfl h
  · rfl

/-! ## Specifiers -/

theorem not_of_isConversionLetter {c : CodePoint} (h : IsConversionLetter c) :
    isPrintfFlag c = false ∧ Text.isDecimal c = false ∧ c ≠ '.' := by
  obtain ⟨letter, hl, hc⟩ := h
  have hfolded : ∀ d ∈ foldedLetters,
      isPrintfFlag d = false ∧ Text.isDecimal d = false ∧ d ≠ '.' := forall_mem_of_all (by decide)
  have hletters : ∀ l ∈ printfLetters,
      (isPrintfFlag l = false ∧ Text.isDecimal l = false ∧ l ≠ '.') ∧
      l.toUpper.toNat + 32 = l.toNat ∧ isPrintfFlag l.toUpper = false ∧
        Text.isDecimal l.toUpper = false ∧ l.toUpper ≠ '.' := forall_mem_of_all (by decide)
  obtain ⟨hself, hl, hupper⟩ := hletters letter hl
  rcases spelling_of_isLetterAnyCase hc with rfl | hc | hc
  · exact hself
  · have : c = letter.toUpper := CodePoint.toNat_inj.1 (by omega)
    rwa [this]
  · exact hfolded c hc.2

theorem splitFlag_append {flag width u : Text} (hf : IsFlag flag)
    (hw : ∀ c ∈ width, Text.isDecimal c = true)
    (hu : ∀ c ∈ u.head?, isPrintfFlag c = false ∧ Text.isDecimal c = false) :
    ∃ f w, splitFlag (flag ++ (width ++ u)) = (f, w ++ u) ∧
      (∀ c ∈ w, Text.isDecimal c = true) ∧ f ++ w = flag ++ width := by
  rcases hf with rfl | ⟨c, hc, rfl⟩
  · cases width with
    | nil =>
      cases u with
      | nil => exact ⟨[], [], rfl, by simp, rfl⟩
      | cons c u => exact ⟨[], [], by simp [splitFlag, (hu c (by simp)).1], by simp, rfl⟩
    | cons c width =>
      by_cases hc : isPrintfFlag c = true
      · exact ⟨[c], width, by simp [splitFlag, hc], fun d hd => hw d (by simp [hd]), rfl⟩
      · exact ⟨[], c :: width, by simp [splitFlag, hc], hw, rfl⟩
  · exact ⟨[c], width, by simp [splitFlag, hc], hw, rfl⟩

theorem splitPrecision_append {precision u : Text} (hp : IsPrecision precision)
    (hu : ∀ c ∈ u.head?, Text.isDecimal c = false ∧ c ≠ '.') :
    splitPrecision (precision ++ u) = (precision, u) := by
  rcases hp with rfl | ⟨digits, hd, rfl⟩
  · cases u with
    | nil => rfl
    | cons c u =>
      rw [List.nil_append, splitPrecision]
      rintro t ht
      cases ht
      exact (hu '.' (by simp)).2 rfl
  · have hrun := readRun?_eq_some_iff.2 ⟨hd, fun c hc => (hu c hc).1, rfl⟩
    simp only [List.cons_append, splitPrecision, hrun]

theorem readPrintf?_append {specifier : Text} (h : IsSpecifier specifier) (rest : Text) :
    readPrintf? (specifier ++ rest) = some (printf specifier, rest) := by
  cases h with
  | @intro flag width precision letter hf hw hp hl =>
    obtain ⟨hnf, hnd, hnp⟩ := not_of_isConversionLetter hl
    have hu : ∀ c ∈ (precision ++ letter :: rest).head?,
        isPrintfFlag c = false ∧ Text.isDecimal c = false := by
      intro c hc
      rcases hp with rfl | ⟨digits, _, rfl⟩
      · cases hc
        exact ⟨hnf, hnd⟩
      · cases hc
        decide
    obtain ⟨f, w, hsplit, hw', hfw⟩ := splitFlag_append hf hw hu
    have hprec := splitPrecision_append hp (u := letter :: rest) (by
      intro c hc
      cases hc
      exact ⟨hnd, hnp⟩)
    obtain ⟨l, hmem, hcase⟩ := hl
    have hany : printfLetters.any (Text.isLetterAnyCase · letter) = true :=
      List.any_eq_true.2 ⟨l, hmem, hcase⟩
    have htake := Text.takeWhile_append_of_stop hw' (fun c hc => (hu c hc).2)
    have hdrop := Text.dropWhile_append_of_stop hw' (fun c hc => (hu c hc).2)
    simp only [List.cons_append, List.append_assoc, List.nil_append, readPrintf?, hsplit, hdrop,
      htake, hprec, hany, if_true]
    rw [← List.append_assoc f w, hfw]
    simp

theorem isSpecifier_of_readPrintf? {t rest : Text} {d : Directive}
    (h : readPrintf? t = some (d, rest)) : ∃ s, d = printf s ∧ IsSpecifier s := by
  unfold readPrintf? at h
  split at h
  · rename_i t'
    dsimp only at h
    split at h
    · rename_i c rest' hc
      split at h
      · rename_i hany
        cases h
        refine ⟨_, rfl, ?_⟩
        have hf : IsFlag (splitFlag t').1 := by
          cases t' with
          | nil => exact .inl rfl
          | cons c u =>
            by_cases hflag : isPrintfFlag c = true
            · exact .inr ⟨c, hflag, by simp [splitFlag, hflag]⟩
            · exact .inl (by simp [splitFlag, hflag])
        have hp : ∀ u, IsPrecision (splitPrecision u).1 := by
          intro u
          unfold splitPrecision
          split
          · split
            · rename_i hrun
              exact .inr ⟨_, (readRun?_eq_some_iff.1 hrun).1, rfl⟩
            · exact .inl rfl
          · exact .inl rfl
        obtain ⟨l, hmem, hcase⟩ := List.any_eq_true.1 hany
        have hwidth : ∀ c ∈ (splitFlag t').2.takeWhile Text.isDecimal, Text.isDecimal c = true :=
          fun c hc => List.mem_takeWhile_imp hc
        have := IsSpecifier.intro hf hwidth (hp ((splitFlag t').2.dropWhile Text.isDecimal))
          ⟨l, hmem, hcase⟩
        simpa using this
      · cases h
    · cases h
  · cases h

/-! ## Dates -/

theorem readFormat_of_not_beginsFormat {t : Text} (h : ¬ BeginsFormat t) :
    readFormat t = (none, t) := by
  unfold readFormat
  split
  · rename_i u
    split
    · rename_i f rest hf
      obtain ⟨hesc, rfl⟩ := isEscaped_of_readEscaped? hf
      exact absurd ⟨f, rest, hesc, rfl⟩ h
    · rfl
  · rfl

theorem readFormat_of_not_beginsZone {format rest : Text} (hf : IsEscaped ')' format)
    (h : ¬ BeginsZone rest) :
    readFormat (.char '(' :: (format ++ .char ')' :: rest)) = (some (format, none), rest) := by
  have hnone : readZone? rest = none := by
    cases hz : readZone? rest with
    | none => rfl
    | some r => exact absurd ⟨r.1, r.2, readZone?_eq_some_iff.1 hz⟩ h
  simp only [readFormat, readEscaped?_append (by decide) hf, hnone]

theorem readFormat_zone {format zone : Text} (hf : IsEscaped ')' format)
    (hz : IsOperand isZoneChar zone) (rest : Text) :
    readFormat (.char '(' :: (format ++ .char ')' :: .char '[' :: (zone ++ .char ']' :: rest))) =
      (some (format, some zone), rest) := by
  simp only [readFormat, readEscaped?_append (by decide) hf, readZone?_eq_some_iff.2 ⟨hz, rfl⟩]

theorem readFormat_spec {isClock : Bool} {w : Text} (hw : Spells (dateWord isClock).toText w)
    (t : Text) :
    (date isClock w (readFormat t).1).Written ∧
      ¬ (date isClock w (readFormat t).1).RunsOn (readFormat t).2 := by
  by_cases hf : BeginsFormat t
  · obtain ⟨format, rest, hesc, rfl⟩ := hf
    by_cases hz : BeginsZone rest
    · obtain ⟨zone, rest, hop, rfl⟩ := hz
      rw [readFormat_zone hesc hop]
      exact ⟨.zone hw hesc hop, id⟩
    · rw [readFormat_of_not_beginsZone hesc hz]
      exact ⟨.format hw hesc, hz⟩
  · rw [readFormat_of_not_beginsFormat hf]
    exact ⟨.date hw, hf⟩

theorem readDate?_append {isClock : Bool} {w : Text} (hw : Spells (dateWord isClock).toText w)
    (t : Text) :
    readDate? (w ++ t) = some (date isClock w (readFormat t).1, (readFormat t).2) := by
  cases isClock with
  | false =>
    have hdate : readAnyWord? ["date"] (w ++ t) = some (w, t) :=
      readAnyWord?_append (by decide) hw (by decide) t
    simp [readDate?, hdate]
  | true =>
    have hdate : readAnyWord? ["date"] (w ++ t) = none :=
      readAnyWord?_eq_none_of_clash hw (by decide) t
    have hnow : readAnyWord? ["now"] (w ++ t) = some (w, t) :=
      readAnyWord?_append (by decide) hw (by decide) t
    simp [readDate?, hdate, hnow]

theorem exists_of_readDate? {t rest : Text} {d : Directive} (h : readDate? t = some (d, rest)) :
    ∃ isClock w u, Spells (dateWord isClock).toText w ∧ t = w ++ u ∧
      d = date isClock w (readFormat u).1 ∧ rest = (readFormat u).2 := by
  unfold readDate? at h
  simp only [Option.map_eq_some_iff] at h
  obtain ⟨⟨isClock, w, u⟩, hw, heq⟩ := h
  simp only [Prod.mk.injEq] at heq
  refine ⟨isClock, w, u, ?_, ?_, heq.1.symm, heq.2.symm⟩
  all_goals
    split at hw
    · rename_i hr
      cases hw
      obtain ⟨⟨x, hx, hs⟩, ht⟩ := spellsAny_of_readAnyWord? hr
      cases List.mem_singleton.1 hx
      assumption
    · simp only [Option.map_eq_some_iff] at hw
      obtain ⟨r, hr, hx⟩ := hw
      cases hx
      obtain ⟨⟨x, hx, hs⟩, ht⟩ := spellsAny_of_readAnyWord? hr
      cases List.mem_singleton.1 hx
      assumption

/-! ## Any directive -/

theorem written_of_read? {t rest : Text} {d : Directive} (h : read? t = some (d, rest)) :
    d.Written ∧ ¬ d.RunsOn rest := by
  obtain ⟨r, hr, h⟩ := List.exists_of_findSome?_eq_some h
  have word : ∀ {words : List String} {make : Text → Directive},
      (∀ w, SpellsAny words w → (make w).Written) → (∀ w u, ¬ (make w).RunsOn u) →
      ((readAnyWord? words t).map fun r => (make r.1, r.2)) = some (d, rest) →
      d.Written ∧ ¬ d.RunsOn rest := by
    intro words make hw hrun h
    simp only [Option.map_eq_some_iff, Prod.mk.injEq] at h
    obtain ⟨r, hr, rfl, rfl⟩ := h
    exact ⟨hw _ (spellsAny_of_readAnyWord? hr).1, hrun _ _⟩
  simp only [readers, List.mem_cons, List.not_mem_nil, or_false] at hr
  rcases hr with rfl | rfl | rfl | rfl | rfl | rfl | rfl | rfl
  · simp only [readPosition?, Option.map_eq_some_iff, Prod.mk.injEq] at h
    obtain ⟨⟨digits, u⟩, hr, rfl, rfl⟩ := h
    obtain ⟨hrun, hstop, _⟩ := readRun?_eq_some_iff.1 hr
    refine ⟨.position hrun, ?_⟩
    rintro ⟨c, v, hc, rfl⟩
    rw [hstop c (by simp)] at hc
    cases hc
  · exact word (fun _ => .trim) (fun _ _ => id) h
  · exact word (fun _ => .lower) (fun _ _ => id) h
  · exact word (fun _ => .upper) (fun _ _ => id) h
  · exact word (fun _ => .codec) (fun _ _ => id) h
  · obtain ⟨hw, hrun⟩ := written_of_readBrackets? h
    exact ⟨hw, hrun rest⟩
  · obtain ⟨s, rfl, hs⟩ := isSpecifier_of_readPrintf? h
    exact ⟨.printf hs, id⟩
  · obtain ⟨isClock, w, u, hw, _, rfl, rfl⟩ := exists_of_readDate? h
    exact readFormat_spec hw u

theorem readPosition?_eq_none_of_head {c : CodePoint} {t : Text} (h : Text.isDecimal c = false) :
    readPosition? (c :: t) = none := by
  rw [readPosition?, readRun?_eq_none_of_head h]
  rfl

theorem readPrintf?_eq_none_of_head {c : CodePoint} {t : Text} (h : c ≠ '%') :
    readPrintf? (c :: t) = none := by
  unfold readPrintf?
  split
  · rename_i ht
    cases ht
    exact absurd rfl h
  · rfl

theorem read?_of_head {c : CodePoint} {t : Text} (hd : Text.isDecimal c = false)
    (hc : c ∉ keywordHeads) :
    read? (c :: t) = (readBrackets? (c :: t)).or (readPrintf? (c :: t)) := by
  have hdate : readDate? (c :: t) = none := by
    rw [readDate?, readAnyWord?_eq_none_of_head (by decide) hc,
      readAnyWord?_eq_none_of_head (by decide) hc]
    rfl
  have htrim : readTrim? (c :: t) = none := by
    rw [readTrim?, readAnyWord?_eq_none_of_head (by decide) hc]
    rfl
  have hlower : readLower? (c :: t) = none := by
    rw [readLower?, readAnyWord?_eq_none_of_head (by decide) hc]
    rfl
  have hupper : readUpper? (c :: t) = none := by
    rw [readUpper?, readAnyWord?_eq_none_of_head (by decide) hc]
    rfl
  have hcodec : readCodec? (c :: t) = none := by
    rw [readCodec?, readAnyWord?_eq_none_of_head (by decide) hc]
    rfl
  simp only [read?, readers, List.findSome?_cons, List.findSome?_nil,
    readPosition?_eq_none_of_head hd, htrim, hlower, hupper, hcodec, hdate]
  cases readBrackets? (c :: t) with
  | none => cases readPrintf? (c :: t) <;> rfl
  | some r => rfl

theorem readPosition?_of_spellsAny {words : List String} {w : Text} (hw : SpellsAny words w)
    (hh : ∀ x ∈ words, hasInitial x = true) (rest : Text) : readPosition? (w ++ rest) = none := by
  obtain ⟨c, v, rfl, hc⟩ := head_of_spellsAny hw hh
  exact readPosition?_eq_none_of_head (isDecimal_keywordHeads c hc)

section Keywords

variable {words : List String} {w : Text} (hw : SpellsAny words w)

include hw

theorem readTrim?_eq_none_of_clash
    (hc : ∀ x ∈ words, ∀ y ∈ ["trim"], clash x.toText y.toText = true) (rest : Text) :
    readTrim? (w ++ rest) = none := by
  rw [readTrim?, readAnyWord?_eq_none_of_spellsAny hw hc]
  rfl

theorem readLower?_eq_none_of_clash
    (hc : ∀ x ∈ words, ∀ y ∈ ["tolower", "lower"], clash x.toText y.toText = true) (rest : Text) :
    readLower? (w ++ rest) = none := by
  rw [readLower?, readAnyWord?_eq_none_of_spellsAny hw hc]
  rfl

theorem readUpper?_eq_none_of_clash
    (hc : ∀ x ∈ words, ∀ y ∈ ["toupper", "upper"], clash x.toText y.toText = true) (rest : Text) :
    readUpper? (w ++ rest) = none := by
  rw [readUpper?, readAnyWord?_eq_none_of_spellsAny hw hc]
  rfl

theorem readCodec?_eq_none_of_clash
    (hc : ∀ x ∈ words, ∀ y ∈ ["urlencode", "urldecode", "b64encode", "b64decode", "base64encode",
      "base64decode"], clash x.toText y.toText = true) (rest : Text) :
    readCodec? (w ++ rest) = none := by
  rw [readCodec?, readAnyWord?_eq_none_of_spellsAny hw hc]
  rfl

end Keywords

theorem read?_of_dateWord {isClock : Bool} {w : Text} (hw : Spells (dateWord isClock).toText w)
    (t : Text) : read? (w ++ t) = some (date isClock w (readFormat t).1, (readFormat t).2) := by
  have hany : SpellsAny ["date", "now"] w := ⟨dateWord isClock, by cases isClock <;> decide, hw⟩
  obtain ⟨c, v, hv, hc⟩ := head_of_spellsAny hany (by decide)
  have hmarks : c ≠ '[' ∧ c ≠ '%' := by
    constructor <;>
      (rintro rfl; revert hc; decide)
  have hbrackets : readBrackets? (w ++ t) = none := by
    rw [hv, List.cons_append]
    exact readBrackets?_eq_none_of_head hmarks.1
  have hprintf : readPrintf? (w ++ t) = none := by
    rw [hv, List.cons_append]
    exact readPrintf?_eq_none_of_head hmarks.2
  simp [read?, readers, readPosition?_of_spellsAny hany (by decide),
    readTrim?_eq_none_of_clash hany (by decide), readLower?_eq_none_of_clash hany (by decide),
    readUpper?_eq_none_of_clash hany (by decide), readCodec?_eq_none_of_clash hany (by decide),
    hbrackets, hprintf, readDate?_append hw]

theorem read?_append {d : Directive} (hd : d.Written) {rest : Text} (hrun : ¬ d.RunsOn rest) :
    read? (d.source ++ rest) = some (d, rest) := by
  have bracketed : ∀ t r, readBrackets? ('[' :: t) = some r → read? ('[' :: t) = some r := by
    intro t r h
    rw [read?_of_head (by decide) (by decide), h]
    rfl
  cases hd with
  | @position digits hdigits =>
    have hstop : ∀ c ∈ rest.head?, Text.isDecimal c = false := by
      intro c hc
      cases rest with
      | nil => cases hc
      | cons d rest =>
        cases hc
        by_contra hne
        exact hrun ⟨c, rest, by simpa using hne, rfl⟩
    simp [source, read?, readers, readPosition?, readRun?_eq_some_iff.2 ⟨hdigits, hstop, rfl⟩]
  | trim hw =>
    simp [source, read?, readers, readPosition?_of_spellsAny hw (by decide), readTrim?,
      readAnyWord?_of_spellsAny hw (by decide)]
  | lower hw =>
    simp [source, read?, readers, readPosition?_of_spellsAny hw (by decide),
      readTrim?_eq_none_of_clash hw (by decide), readLower?,
      readAnyWord?_of_spellsAny hw (by decide)]
  | upper hw =>
    simp [source, read?, readers, readPosition?_of_spellsAny hw (by decide),
      readTrim?_eq_none_of_clash hw (by decide), readLower?_eq_none_of_clash hw (by decide),
      readUpper?, readAnyWord?_of_spellsAny hw (by decide)]
  | codec hw =>
    simp [source, read?, readers, readPosition?_of_spellsAny hw (by decide),
      readTrim?_eq_none_of_clash hw (by decide), readLower?_eq_none_of_clash hw (by decide),
      readUpper?_eq_none_of_clash hw (by decide), readCodec?,
      readAnyWord?_of_spellsAny hw (by decide)]
  | start hs =>
    simpa [source] using bracketed _ _ (readBrackets?_start hs rest)
  | bounds hs hm hb =>
    simpa [source] using bracketed _ _ (readBrackets?_bounds hs hm hb rest)
  | extract hp hg =>
    simpa [source] using bracketed _ _ (readBrackets?_extract hp hg rest)
  | @printf s hs =>
    obtain ⟨t, rfl⟩ : ∃ t, s = .char '%' :: t := by
      cases hs
      exact ⟨_, rfl⟩
    rw [source, List.cons_append, read?_of_head (by decide) (by decide),
      readBrackets?_eq_none_of_head (by decide)]
    exact readPrintf?_append hs rest
  | date hw =>
    rw [source, read?_of_dateWord hw, readFormat_of_not_beginsFormat hrun]
  | @format isClock w f hw hf =>
    have := read?_of_dateWord hw (.char '(' :: (f ++ .char ')' :: rest))
    rw [readFormat_of_not_beginsZone hf hrun] at this
    simpa [source] using this
  | @zone isClock w f z hw hf hz =>
    have := read?_of_dateWord hw
      (.char '(' :: (f ++ .char ')' :: .char '[' :: (z ++ .char ']' :: rest)))
    rw [readFormat_zone hf hz] at this
    simpa [source] using this

theorem read?_eq_some_iff {t rest : Text} {d : Directive} :
    read? t = some (d, rest) ↔ d.Written ∧ ¬ d.RunsOn rest ∧ t = d.source ++ rest := by
  constructor
  · intro h
    obtain ⟨hw, hrun⟩ := written_of_read? h
    exact ⟨hw, hrun, (source_append_of_read? h).1.symm⟩
  · rintro ⟨hw, hrun, rfl⟩
    exact read?_append hw hrun

end Directive

end BraceTemplate
