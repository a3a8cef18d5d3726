import BraceTemplate.Proofs.Quoting

/-!
# BraceTemplate.Proofs.Strays

A brace that opens nothing opens nothing either if the end of the text is removed or braces behind
it are quoted (`IsStray.of_quoted`). Opening is said of the directives one by one (`Body.Opens`).
The induction takes what is read from the edited text back to the whole text: there the same
directive is read, or a longer one with the same operands, and then the edited text has ended or
goes on with a bracket or parenthesis that begins no directive.
-/

namespace BraceTemplate

namespace Directive

/-! ## Directives that run on -/

/-- A directive that runs on is the beginning of one that does not, which is obstructed if the
directive is. -/
theorem exists_longer {d : Directive} (hd : d.Written) {t : Text} (h : d.RunsOn t) {f : Fault}
    (hf : d.Obstructed f) :
    ∃ (e : Directive) (r : Text), e.Written ∧ ¬ e.RunsOn r ∧ d.source ++ t = e.source ++ r ∧
      e.Obstructed f := by
  cases hf with
  | @position digits hlong =>
    cases hd with
    | position hrun =>
      refine ⟨position (digits ++ t.takeWhile Text.isDecimal), t.dropWhile Text.isDecimal,
        .position ⟨by simp [hrun.1], ?_⟩, ?_, ?_, .position ?_⟩
      · intro c hc
        rcases List.mem_append.1 hc with hc | hc
        · exact hrun.2 c hc
        · exact List.mem_takeWhile_imp hc
      · rintro ⟨c, r, hc, hr⟩
        have := Text.head?_dropWhile_eq_false t (p := Text.isDecimal) c (by rw [hr]; rfl)
        rw [this] at hc
        cases hc
      · simp [source, List.takeWhile_append_dropWhile]
      · rw [List.length_append]
        omega
  | @operand d u hu hlong =>
    rcases runsOn_cases h with ⟨_, _, _, rfl, -, -⟩ | ⟨_, _, rfl, -⟩ |
      ⟨isClock, w, format, rfl, zone, r, hz, rfl⟩
    · cases hu
    · cases hu
    · cases hd with
      | format hw hf =>
        refine ⟨date isClock w (some (format, some zone)), r, .zone hw hf hz, id, by simp [source],
          .operand ?_ hlong⟩
        simp only [operandTexts, Option.toList_none, List.mem_singleton] at hu
        simp [operandTexts, hu]
  | codec => exact h.elim

theorem read?_backslash_in_brackets (t : Text) : read? ('[' :: '\\' :: t) = none := by
  have hdecimal : Text.isDecimal '\\' = false := by decide
  have hbrackets : readBrackets? ('[' :: '\\' :: t) = none := by
    simp [readBrackets?, readOperand?, readRun?, hdecimal, readIndirect?]
  rw [read?_of_head (by decide) (by decide), hbrackets,
    readPrintf?_eq_none_of_head (by decide)]
  rfl

theorem read?_eq_none_of_beginsZone {b : Bool} {t u more : Text} (hq : Quoted b t u)
    (ht : BeginsZone ('[' :: (t ++ more))) (hu : ¬ BeginsZone ('[' :: u)) :
    read? ('[' :: u) = none := by
  obtain ⟨zone, rest, hz, ht⟩ := ht
  cases hread : read? ('[' :: u) with
  | none => rfl
  | some r =>
    obtain ⟨e, r⟩ := r
    obtain ⟨he, -, hsource⟩ := read?_eq_some_iff.1 hread
    obtain ⟨c, v, hv, -⟩ := source_eq_cons he
    rw [hv, List.cons_append, List.cons.injEq] at hsource
    obtain ⟨rfl, hsource⟩ := hsource
    obtain ⟨v, rfl⟩ := exists_bracketed he hv
    have hmem : .char ']' ∈ u := by simp [hsource]
    -- the first closing bracket of the edited text is the one behind the zone
    obtain ⟨zone', r', rfl, hzone'⟩ := List.eq_append_cons_of_mem hmem
    obtain ⟨w, s, rfl, hw, hs⟩ := hq.of_append_cons (by decide) (by decide)
    have hnot : .char ']' ∉ w := fun hc => hzone' (hw.sublist.subset hc)
    have hwz : w = zone := by
      rw [List.cons.injEq, List.append_assoc, List.cons_append] at ht
      rcases append_bracket_cases (not_mem_zone hz) ht.2 with ⟨hwz, -⟩ | ⟨y, rfl⟩
      · exact hwz
      · exact absurd (by simp) hnot
    subst hwz
    rcases hz with hrun | ⟨digits, hdigits, rfl⟩
    · have hbrace : .char '\x7b' ∉ w := by
        intro hc
        have := hrun.2 _ hc
        revert this
        decide
      rw [← hw.eq_of_brace_not_mem hbrace] at hu
      exact absurd ⟨w, r', .inl hrun, rfl⟩ hu
    · have hbrace : .char '\x7b' ∉ digits ++ [.char '\x7d'] := by
        intro hc
        rcases List.mem_append.1 hc with hc | hc
        · have := hdigits _ hc
          revert this
          decide
        · cases List.mem_singleton.1 hc
      cases hw with
      | char hw =>
        rw [← hw.eq_of_brace_not_mem hbrace] at hu
        exact absurd ⟨_, r', .inr ⟨digits, hdigits, rfl⟩, rfl⟩ hu
      | brace =>
        rw [List.cons_append, read?_backslash_in_brackets] at hread
        exact hread.symm

end Directive

namespace Body

/-! ## What a brace opens -/

/-- The text behind a brace that is the brace of a body, or fails to be compiled. -/
inductive Opens : Text → Prop where
  | close {rest : Text} : Opens ('\x7d' :: rest)
  | obstructed {t rest : Text} {d : Directive} {f : Fault} :
      Directive.read? t = some (d, rest) → d.Obstructed f → Opens t
  | later {t rest : Text} {d : Directive} :
      Directive.read? t = some (d, rest) → Opens (dropComma rest).2 → Opens t

theorem opens_iff_readDirectives {t : Text} :
    Opens t ↔ (∃ x ∈ (readDirectives t).1, ∃ f, x.1.Obstructed f) ∨
      ∃ rest, (readDirectives t).2 = .char '\x7d' :: rest := by
  fun_induction readDirectives t with
  | case1 t hread =>
    simp only [List.not_mem_nil, false_and, exists_false, false_or]
    constructor
    · intro h
      cases h with
      | close => exact ⟨_, rfl⟩
      | obstructed hd => rw [hread] at hd; cases hd
      | later hd => rw [hread] at hd; cases hd
    · rintro ⟨rest, rfl⟩
      exact .close
  | case2 t d rest hread next ih =>
    constructor
    · intro h
      cases h with
      | close =>
        rw [read?_eq_none (by decide)] at hread
        cases hread
      | obstructed hd hf =>
        rw [hread] at hd
        cases hd
        exact .inl ⟨_, List.mem_cons_self, _, hf⟩
      | later hd h =>
        rw [hread] at hd
        cases hd
        rcases ih.1 h with ⟨x, hx, hf⟩ | hrest
        · exact .inl ⟨x, List.mem_cons_of_mem _ hx, hf⟩
        · exact .inr hrest
    · rintro (⟨x, hx, f, hf⟩ | hrest)
      · rcases List.mem_cons.1 hx with rfl | hx
        · exact .obstructed hread hf
        · exact .later hread (ih.2 (.inl ⟨x, hx, f, hf⟩))
      · exact .later hread (ih.2 (.inr hrest))

theorem exists_firstObstructed_iff {ds : List Directive} :
    (∃ f, Directive.FirstObstructed ds f) ↔ ∃ d ∈ ds, ∃ f, d.Obstructed f := by
  constructor
  · rintro ⟨f, h⟩
    obtain ⟨d, hd, hf⟩ := h.exists_mem
    exact ⟨d, hd, f, hf⟩
  · rintro ⟨d, hd, f, hf⟩
    induction ds with
    | nil => cases hd
    | cons e ds ih =>
      by_cases he : ∃ g, e.Obstructed g
      · obtain ⟨g, hg⟩ := he
        exact ⟨g, .first hg⟩
      · rcases List.mem_cons.1 hd with rfl | hd
        · exact absurd ⟨f, hf⟩ he
        · obtain ⟨g, hg⟩ := ih hd
          exact ⟨g, .later (fun g hg => he ⟨g, hg⟩) hg⟩

theorem parse_eq_none_iff {t : Text} : parse t = .ok none ↔ ¬ Opens t := by
  have hfault : (∃ f, parse t = .error f) ↔ ∃ x ∈ (readDirectives t).1, ∃ f, x.1.Obstructed f := by
    simp only [parse_eq_error_iff, exists_firstObstructed_iff, List.mem_map]
    constructor
    · rintro ⟨-, ⟨x, hx, rfl⟩, hf⟩
      exact ⟨x, hx, hf⟩
    · rintro ⟨x, hx, hf⟩
      exact ⟨_, ⟨x, hx, rfl⟩, hf⟩
  rw [opens_iff_readDirectives, ← hfault]
  unfold parse
  split
  · simp
  · split
    · rename_i hrest
      simp [hrest]
    · rename_i hrest
      simpa using hrest

theorem not_opens_of_read? {t : Text} (hread : Directive.read? t = none)
    (h : ∀ r, t ≠ .char '\x7d' :: r) : ¬ Opens t := by
  intro ht
  cases ht with
  | close => exact h _ rfl
  | obstructed hd => rw [hread] at hd; cases hd
  | later hd => rw [hread] at hd; cases hd

theorem not_opens_nil : ¬ Opens [] := not_opens_of_read? rfl (by simp)

/-! ## Editing what stands behind a brace -/

section

variable {b : Bool} {t u more : Text} (hq : Quoted b t u)

include hq

theorem not_opens_of_digits {digits : Text}
    (ht : (Directive.position digits).RunsOn (t ++ more))
    (hu : ¬ (Directive.position digits).RunsOn u) : ¬ Opens (dropComma u).2 := by
  obtain ⟨c, rest, hc, ht⟩ := ht
  have hbrace : c ≠ '\x7b' := by
    rintro rfl
    revert hc
    decide
  rcases hq.head_cases hbrace ht with rfl | ⟨t', u', -, rfl, -⟩
  · exact not_opens_nil
  · exact absurd ⟨c, u', hc, rfl⟩ hu

theorem not_opens_of_beginsFormat (ht : Directive.BeginsFormat (t ++ more)) :
    ¬ Opens (dropComma u).2 := by
  obtain ⟨format, rest, -, ht⟩ := ht
  rcases hq.head_cases (by decide) ht with rfl | ⟨t', u', -, rfl, -⟩
  · exact not_opens_nil
  · exact not_opens_of_read? (read?_eq_none (by decide) u') (by simp [dropComma])

theorem not_opens_of_beginsZone (ht : Directive.BeginsZone (t ++ more))
    (hu : ¬ Directive.BeginsZone u) : ¬ Opens (dropComma u).2 := by
  obtain ⟨zone, rest, hz, hsource⟩ := id ht
  rcases hq.head_cases (by decide) hsource with rfl | ⟨t', u', rfl, rfl, hq'⟩
  · exact not_opens_nil
  · exact not_opens_of_read? (Directive.read?_eq_none_of_beginsZone hq' ht hu) (by simp [dropComma])

theorem not_opens_of_runsOn {d d' : Directive} (hd : d.IsQuoted d') (ht : d.RunsOn (t ++ more))
    (hu : ¬ d'.RunsOn u) : ¬ Opens (dropComma u).2 := by
  cases hd with
  | same =>
    rcases Directive.runsOn_cases ht with ⟨_, _, _, rfl, -, -⟩ | ⟨_, _, rfl, hformat⟩ |
      ⟨_, _, _, rfl, hzone⟩
    · exact not_opens_of_digits hq ht hu
    · exact not_opens_of_beginsFormat hq hformat
    · exact not_opens_of_beginsZone hq hzone hu
  | extract => exact ht.elim
  | @date _ _ _ _ _ zone =>
    cases zone with
    | none => exact not_opens_of_beginsZone hq ht hu
    | some zone => exact ht.elim

theorem exists_dropComma (hu : u ≠ []) (more : Text) :
    ∃ b' t', (dropComma (t ++ more)).2 = t' ++ more ∧ Quoted b' t' (dropComma u).2 := by
  cases hq with
  | nil => exact absurd rfl hu
  | @char _ c t u h =>
    by_cases hc : c = ','
    · subst hc
      exact ⟨_, t, rfl, h⟩
    · have hdrop : ∀ v, dropComma (c :: v) = (false, c :: v) :=
        fun v => dropComma_append false (by simp [hc])
      exact ⟨b, c :: t, by rw [List.cons_append, hdrop], by rw [hdrop]; exact .char h⟩
  | @brace _ t u hb h => exact ⟨b, '\x7b' :: t, rfl, .brace hb h⟩

end

/-- What an edited text opens the whole one opens, too. By induction on the directives that are
read from the edited text. -/
theorem Opens.of_quoted {u : Text} (h : Opens u) {b : Bool} {t : Text} (hq : Quoted b t u)
    (more : Text) : Opens (t ++ more) := by
  induction h generalizing b t with
  | close =>
    cases hq with
    | char => exact .close
  | obstructed hread hf =>
    obtain ⟨hd, -, rfl⟩ := Directive.read?_eq_some_iff.1 hread
    obtain ⟨e, r, b', rfl, he, hquoted, -⟩ := Directive.exists_isQuoted hd hq
    rw [List.append_assoc]
    by_cases hrun : e.RunsOn (r ++ more)
    · obtain ⟨e', r', he', hrun', hsource, hf'⟩ :=
        Directive.exists_longer he hrun (hquoted.obstructed hf)
      rw [hsource]
      exact .obstructed (Directive.read?_append he' hrun') hf'
    · exact .obstructed (Directive.read?_append he hrun) (hquoted.obstructed hf)
  | @later u rest d hread hrest ih =>
    obtain ⟨hd, hnot, rfl⟩ := Directive.read?_eq_some_iff.1 hread
    obtain ⟨e, r, b', rfl, he, hquoted, hr⟩ := Directive.exists_isQuoted hd hq
    have hrun : ¬ e.RunsOn (r ++ more) :=
      fun hrun => not_opens_of_runsOn hr hquoted hrun hnot hrest
    have hne : rest ≠ [] := by
      rintro rfl
      exact not_opens_nil hrest
    obtain ⟨b'', t', hcomma, hq'⟩ := exists_dropComma hr hne more
    rw [List.append_assoc]
    refine .later (Directive.read?_append he hrun) ?_
    rw [hcomma]
    exact ih hq'

end Body

/-- A brace that opens nothing opens nothing when the end of the text behind it is removed and
braces in it are quoted. -/
theorem IsStray.of_quoted {b : Bool} {t u more : Text} (h : IsStray (t ++ more))
    (hq : Quoted b t u) : IsStray u := by
  have mark : ∀ c : CodePoint, c ≠ '\\' → (∃ r, u = c :: .char '\x7d' :: r) →
      ∃ r, t ++ more = c :: .char '\x7d' :: r := by
    rintro c hc ⟨r, rfl⟩
    have hnot : .char '\\' ∉ [c, .char '\x7d'] := by simp [hc.symm]
    obtain ⟨b', s, rfl, -⟩ :=
      (show Quoted b t ([c, .char '\x7d'] ++ r) from hq).of_append_of_not_mem hnot
    exact ⟨s ++ more, rfl⟩
  refine isStray_of_parse ?_ ?_ ?_
  · exact Body.parse_eq_none_iff.2 fun hopens =>
      Body.parse_eq_none_iff.1 h.parse_eq (hopens.of_quoted hq more)
  · intro r hr
    obtain ⟨s, hs⟩ := mark '?' (by decide) ⟨r, hr⟩
    exact h.not_open ⟨s, by rw [hs]; rfl⟩
  · intro r hr
    obtain ⟨s, hs⟩ := mark '.' (by decide) ⟨r, hr⟩
    exact h.not_close ⟨s, by rw [hs]; rfl⟩

theorem Strays.of_quoted {text rest rest' more : Text} (h : Strays text (rest ++ more))
    (hq : Quoted (text.getLast? = some (.char '\\')) rest rest') : Strays text rest' := by
  induction text with
  | nil => trivial
  | cons c text ih =>
    constructor
    · intro hc
      have hstray := h.1 hc
      rw [← List.append_assoc] at hstray
      exact hstray.of_quoted (.append_literal hq)
    · cases text with
      | nil => trivial
      | cons d text => exact ih h.2 (by simpa using hq)

end BraceTemplate
