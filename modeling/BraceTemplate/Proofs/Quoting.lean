import BraceTemplate.Proofs.ScanFaults

/-!
# BraceTemplate.Proofs.Quoting

Backslashes before braces. `Quoted b t u` says that `u` is `t` with a backslash before some of its
opening braces, none of which stands behind a backslash of `t`. Patterns, groups and formats are
the only places where a directive can hold such a backslash (`backslash_not_mem_source`). A pattern
or format takes it together with the brace, so it ends where it ended before; in any other place the
directive ends before it. So what is read from `u` is read from `t`, too (`exists_isQuoted`).
-/

namespace BraceTemplate

/-- The second text is the first one with a backslash before some of its opening braces, none of
which stands behind a backslash. The flag says whether a backslash stands before the texts. -/
inductive Quoted : Bool → Text → Text → Prop where
  | nil {b : Bool} : Quoted b [] []
  | char {b : Bool} {c : CodePoint} {t u : Text} :
      Quoted (c = '\\') t u → Quoted b (c :: t) (c :: u)
  | brace {b : Bool} {t u : Text} :
      b = false → Quoted false t u → Quoted b (.char '\x7b' :: t) (.char '\\' :: .char '\x7b' :: u)

namespace Quoted

variable {b : Bool} {t u w : Text}

theorem refl (b : Bool) (t : Text) : Quoted b t t := by
  induction t generalizing b with
  | nil => exact .nil
  | cons c t ih => exact .char (ih _)

/-- Behind a literal text that is left as it is. -/
theorem append_literal {c : CodePoint} {text : Text}
    (h : Quoted ((c :: text).getLast? = some (.char '\\')) t u) :
    Quoted (c = '\\') (text ++ t) (text ++ u) := by
  induction text generalizing c with
  | nil => simpa using h
  | cons d text ih => exact .char (ih (by simpa using h))

theorem sublist (h : Quoted b t u) : t.Sublist u := by
  induction h with
  | nil => exact .slnil
  | char _ ih => exact ih.cons_cons _
  | brace _ _ ih => exact (ih.cons_cons _).cons _

theorem of_append_of_not_mem (h : Quoted b t (w ++ u)) (hw : .char '\\' ∉ w) :
    ∃ b' s, t = w ++ s ∧ Quoted b' s u := by
  induction w generalizing b t with
  | nil => exact ⟨b, t, rfl, h⟩
  | cons c w ih =>
    rw [List.mem_cons, not_or] at hw
    rw [List.cons_append] at h
    generalize hx : w ++ u = x at h
    cases h with
    | char h =>
      obtain ⟨b', s, rfl, hs⟩ := ih (hx ▸ h) hw.2
      exact ⟨b', s, rfl, hs⟩
    | brace => exact absurd rfl hw.1

theorem eq_nil (h : Quoted b t []) : t = [] := by
  cases h
  rfl

theorem eq_of_not_mem (h : Quoted b t u) (hu : .char '\\' ∉ u) : t = u := by
  rw [← List.append_nil u] at h
  obtain ⟨b', s, rfl, hs⟩ := h.of_append_of_not_mem hu
  rw [hs.eq_nil, List.append_nil]

theorem eq_of_brace_not_mem (h : Quoted b t u) (ht : .char '\x7b' ∉ t) : t = u := by
  induction h with
  | nil => rfl
  | char _ ih => rw [ih fun hc => ht (List.mem_cons_of_mem _ hc)]
  | brace => exact absurd List.mem_cons_self ht

theorem of_append_cons {c : CodePoint} (h : Quoted b t (w ++ c :: u)) (hc : c ≠ '\\')
    (hbrace : c ≠ '\x7b') :
    ∃ v s, t = v ++ c :: s ∧ Quoted b v w ∧ Quoted false s u := by
  generalize hx : w ++ c :: u = x at h
  induction h generalizing w with
  | nil => simp at hx
  | @char b d t x h ih =>
    cases w with
    | nil =>
      cases hx
      exact ⟨[], t, rfl, .nil, by simpa [hc] using h⟩
    | cons a w =>
      cases hx
      obtain ⟨v, s, rfl, hv, hs⟩ := ih rfl
      exact ⟨d :: v, s, rfl, .char hv, hs⟩
  | @brace b t x hb h ih =>
    match w, hx with
    | [], hx => exact absurd (List.cons.inj hx).1 hc
    | [_], hx => exact absurd (List.cons.inj (List.cons.inj hx).2).1 hbrace
    | _ :: _ :: w, hx =>
      cases hx
      obtain ⟨v, s, rfl, hv, hs⟩ := ih rfl
      exact ⟨.char '\x7b' :: v, s, rfl, .brace hb hv, hs⟩

/-- A mark at the beginning stands in both texts, unless nothing of them is left. -/
theorem head_cases {c : CodePoint} {more s : Text} (h : Quoted b t u) (hc : c ≠ '\x7b')
    (ht : t ++ more = c :: s) :
    u = [] ∨ ∃ t' u', t = c :: t' ∧ u = c :: u' ∧ Quoted (c = '\\') t' u' := by
  cases h with
  | nil => exact .inl rfl
  | char h =>
    cases ht
    exact .inr ⟨_, _, rfl, rfl, h⟩
  | brace => exact absurd (List.cons.inj ht).1.symm hc

/-- The backslash and the brace are a pair, so the closing mark is the same. -/
theorem isEscaped {stop : CodePoint} (hstop : stop ≠ '\x7b') (h : Quoted b t u)
    (hu : Directive.IsEscaped stop u) : Directive.IsEscaped stop t := by
  induction hu generalizing b t with
  | nil =>
    cases h
    exact .nil
  | plain hc hb _ ih =>
    cases h with
    | char h => exact .plain hc hb (ih h)
    | brace => exact absurd rfl hb
  | pair hd _ ih =>
    cases h with
    | char h =>
      cases h with
      | char h => exact .pair hd (ih h)
      | brace hb => cases hb
    | brace _ h => exact .plain hstop.symm (by decide) (ih h)

theorem unescape_eq (h : Quoted b t u) : Directive.unescape t = Directive.unescape u := by
  fun_induction Directive.unescape u generalizing b t with
  | case1 => rw [h.eq_nil, Directive.unescape]
  | case2 c =>
    cases h with
    | char h => rw [h.eq_nil, Directive.unescape]
  | case3 c d u hc ih =>
    obtain ⟨rfl, hd⟩ := hc
    cases h with
    | char h =>
      cases h with
      | char h =>
        rw [Directive.unescape, if_pos ⟨rfl, hd⟩, ih h]
      | brace hb => cases hb
    | brace _ h =>
      rw [Directive.unescape_cons (by decide), ih h]
  | case4 c d u hc ih =>
    cases h with
    | @char _ _ t _ h =>
      rw [← ih h]
      cases h with
      | char => rw [Directive.unescape, if_neg hc]
      | brace => rw [Directive.unescape, if_neg (by simpa using hc)]
    | brace => exact absurd ⟨rfl, by decide⟩ hc

end Quoted

namespace Directive

/-! ## Where a directive can hold a backslash -/

theorem eq_of_isLetterAnyCase_backslash {letter : CodePoint}
    (h : Text.isLetterAnyCase letter '\\' = true) : letter = '\\' := by
  have hlower : '\\'.toLower = '\\' := rfl
  have hfolded : .char '\\' ∉ foldedLetters := by decide
  simp only [foldedLetters, List.mem_cons, List.not_mem_nil, or_false, not_or] at hfolded
  simpa [Text.isLetterAnyCase, hlower, hfolded, eq_comm] using h

theorem backslash_not_mem_of_spells {word w : Text} (h : Spells word w) (hw : .char '\\' ∉ word) :
    .char '\\' ∉ w := by
  induction h with
  | nil => exact List.not_mem_nil
  | cons hc _ ih =>
    rw [List.mem_cons, not_or] at hw ⊢
    refine ⟨?_, ih hw.2⟩
    rintro rfl
    exact hw.1 (eq_of_isLetterAnyCase_backslash hc).symm

theorem backslash_not_mem_of_spellsAny {words : List String} {w : Text} (h : SpellsAny words w)
    (hw : ∀ x ∈ words, .char '\\' ∉ x.toText) : .char '\\' ∉ w := by
  obtain ⟨x, hx, hs⟩ := h
  exact backslash_not_mem_of_spells hs (hw x hx)

theorem backslash_not_mem_of_dateWord {isClock : Bool} {w : Text}
    (h : Spells (dateWord isClock).toText w) : .char '\\' ∉ w :=
  backslash_not_mem_of_spells h (by cases isClock <;> decide)

theorem backslash_not_mem_of_isSpecifier {s : Text} (h : IsSpecifier s) : .char '\\' ∉ s := by
  have hdecimal : Text.isDecimal '\\' = false := by decide
  cases h with
  | @intro flag width precision letter hf hw hp hl =>
    have hflag : .char '\\' ∉ flag := by
      rcases hf with rfl | ⟨c, hc, rfl⟩
      · exact List.not_mem_nil
      · rw [List.mem_singleton]
        rintro rfl
        revert hc
        decide
    have hwidth : .char '\\' ∉ width := by
      intro hmem
      rw [hw _ hmem] at hdecimal
      cases hdecimal
    have hprecision : .char '\\' ∉ precision := by
      rcases hp with rfl | ⟨digits, hd, rfl⟩
      · exact List.not_mem_nil
      · have := not_mem_of_isOperand (.inl hd) hdecimal hdecimal (by decide)
        simp [this]
    have hletter : '\\' ≠ letter := by
      rintro rfl
      obtain ⟨l, hmem, hl⟩ := hl
      rw [eq_of_isLetterAnyCase_backslash hl] at hmem
      revert hmem
      decide
    simp [hflag, hwidth, hprecision, hletter]

theorem backslash_not_mem_source {d : Directive} (hd : d.Written)
    (hextract : ∀ pattern group, d ≠ extract pattern group)
    (hformat : ∀ isClock w format zone, d ≠ date isClock w (some (format, zone))) :
    .char '\\' ∉ d.source := by
  cases hd with
  | position h => exact not_mem_of_isOperand (.inl h) (by decide) (by decide) (by decide)
  | trim h => exact backslash_not_mem_of_spellsAny h (by decide)
  | lower h => exact backslash_not_mem_of_spellsAny h (by decide)
  | upper h => exact backslash_not_mem_of_spellsAny h (by decide)
  | codec h => exact backslash_not_mem_of_spellsAny h (by decide)
  | start h =>
    have := not_mem_of_isOperand h (c := '\\') (by decide) (by decide) (by decide)
    simp [source, this]
  | bounds h hm hb =>
    have hstart := not_mem_of_isOperand h (c := '\\') (by decide) (by decide) (by decide)
    have hbound := not_mem_of_isBound hb (c := '\\') (by decide) (by decide) (by decide)
    rcases hm with rfl | rfl
    · simp [source, hstart, hbound]
    · simp [source, hstart, hbound]
  | extract => exact absurd rfl (hextract _ _)
  | printf h => exact backslash_not_mem_of_isSpecifier h
  | date h => exact backslash_not_mem_of_dateWord h
  | format => exact absurd rfl (hformat _ _ _ _)
  | zone => exact absurd rfl (hformat _ _ _ _)

/-! ## Quoted directives -/

/-- The second directive is the first one with backslashes before braces of its pattern, its group
or its format. -/
inductive IsQuoted : Directive → Directive → Prop where
  | same {d : Directive} : IsQuoted d d
  | extract {b b' : Bool} {pattern pattern' group group' : Text} :
      Quoted b pattern pattern' → Quoted b' group group' →
      IsQuoted (extract pattern group) (extract pattern' group')
  | date {b isClock : Bool} {w format format' : Text} {zone : Option Text} :
      Quoted b format format' →
      IsQuoted (date isClock w (some (format, zone))) (date isClock w (some (format', zone)))

theorem exists_isQuoted_extract {pattern group : Text} (hd : (extract pattern group).Written)
    {b : Bool} {t rest : Text} (h : Quoted b t ((extract pattern group).source ++ rest)) :
    ∃ (d : Directive) (r : Text) (b' : Bool), t = d.source ++ r ∧ d.Written ∧
      d.IsQuoted (extract pattern group) ∧ Quoted b' r rest := by
  cases hd with
  | extract hp hg =>
    have hsource : (extract pattern group).source ++ rest =
        [.char '[', .char '/'] ++
          (pattern ++ .char '/' :: (group ++ .char ']' :: rest)) := by simp [source]
    rw [hsource] at h
    obtain ⟨b₁, s, rfl, hs⟩ := h.of_append_of_not_mem (by decide)
    obtain ⟨p, s, rfl, hpattern, hs⟩ := hs.of_append_cons (by decide) (by decide)
    obtain ⟨g, r, rfl, hgroup, hr⟩ := hs.of_append_cons (by decide) (by decide)
    exact ⟨extract p g, r, false, by simp [source],
      .extract (hpattern.isEscaped (by decide) hp) (fun hmem => hg (hgroup.sublist.subset hmem)),
      .extract hpattern hgroup, hr⟩

theorem exists_isQuoted_date {isClock : Bool} {w format : Text} {zone : Option Text}
    (hd : (date isClock w (some (format, zone))).Written) {b : Bool} {t rest : Text}
    (h : Quoted b t ((date isClock w (some (format, zone))).source ++ rest)) :
    ∃ (d : Directive) (r : Text) (b' : Bool), t = d.source ++ r ∧ d.Written ∧
      d.IsQuoted (date isClock w (some (format, zone))) ∧ Quoted b' r rest := by
  have split : ∀ {more : Text}, Spells (dateWord isClock).toText w → IsEscaped ')' format →
      Quoted b t (w ++ .char '(' :: (format ++ .char ')' :: more)) →
      ∃ f s, t = w ++ .char '(' :: (f ++ .char ')' :: s) ∧ IsEscaped ')' f ∧
        (∃ b', Quoted b' f format) ∧
        Quoted false s more := by
    intro more hw hf h
    have hword : .char '\\' ∉ w ++ [.char '('] := by simp [backslash_not_mem_of_dateWord hw]
    rw [List.append_cons] at h
    obtain ⟨b₁, s, rfl, hs⟩ := h.of_append_of_not_mem hword
    obtain ⟨f, s, rfl, hformat, hs⟩ := hs.of_append_cons (by decide) (by decide)
    exact ⟨f, s, by simp, hformat.isEscaped (by decide) hf, ⟨b₁, hformat⟩, hs⟩
  cases hd with
  | format hw hf =>
    obtain ⟨f, s, rfl, hf, ⟨b', hq⟩, hs⟩ := split hw hf (by simpa [source] using h)
    exact ⟨date isClock w (some (f, none)), s, false, by simp [source], .format hw hf, .date hq,
      hs⟩
  | @zone _ _ _ z hw hf hz =>
    obtain ⟨f, s, rfl, hf, ⟨b', hq⟩, hs⟩ := @split (.char '[' :: (z ++ .char ']' :: rest)) hw hf
      (by simpa [source] using h)
    have hzone : .char '\\' ∉ .char '[' :: (z ++ [.char ']']) := by
      have := not_mem_of_isOperand hz (c := '\\') (by decide) (by decide) (by decide)
      simp [this]
    have hcons : .char '[' :: (z ++ .char ']' :: rest) =
        .char '[' :: (z ++ [.char ']']) ++ rest := by simp
    rw [hcons] at hs
    obtain ⟨b₁, r, rfl, hr⟩ := hs.of_append_of_not_mem hzone
    exact ⟨date isClock w (some (f, some z)), r, b₁, by simp [source], .zone hw hf hz, .date hq,
      hr⟩

theorem exists_isQuoted {d' : Directive} (hd : d'.Written) {b : Bool} {t rest : Text}
    (h : Quoted b t (d'.source ++ rest)) :
    ∃ (d : Directive) (r : Text) (b' : Bool), t = d.source ++ r ∧ d.Written ∧ d.IsQuoted d' ∧
      Quoted b' r rest := by
  by_cases hextract : ∃ pattern group, d' = extract pattern group
  · obtain ⟨pattern, group, rfl⟩ := hextract
    exact exists_isQuoted_extract hd h
  by_cases hformat : ∃ isClock w format zone, d' = date isClock w (some (format, zone))
  · obtain ⟨isClock, w, format, zone, rfl⟩ := hformat
    exact exists_isQuoted_date hd h
  · have hnot := backslash_not_mem_source hd (fun p g he => hextract ⟨p, g, he⟩)
      (fun c w f z he => hformat ⟨c, w, f, z, he⟩)
    obtain ⟨b', s, rfl, hs⟩ := h.of_append_of_not_mem hnot
    exact ⟨d', s, b', rfl, hd, .same, hs⟩

theorem backslash_not_mem_of_isOverlong {t : Text} (h : Reference.IsOverlong t) :
    .char '\\' ∉ t := by
  obtain ⟨digits, hdigits, -⟩ := h
  unfold Reference.indirectDigits? at hdigits
  split at hdigits
  · rename_i t
    have hrun : .char '\\' ∉ t.takeWhile Text.isDecimal := by
      intro hmem
      have := List.mem_takeWhile_imp hmem
      revert this
      decide
    rw [← List.takeWhile_append_dropWhile (p := Text.isDecimal) (l := t)]
    simp only at hdigits
    split at hdigits
    · rename_i hrest
      simp [hrun, hrest]
    · rename_i hrest
      simp [hrun, hrest]
    · cases hdigits
  · cases hdigits

/-- What obstructs a quoted directive obstructs the directive: an overlong operand is not quoted,
and a format is unescaped first. -/
theorem IsQuoted.obstructed {d d' : Directive} (h : d.IsQuoted d') {f : Fault}
    (hd : d'.Obstructed f) : d.Obstructed f := by
  cases h with
  | same => exact hd
  | @extract _ _ pattern pattern' group group' hp hg =>
    cases hd with
    | operand ht hlong =>
      have hnot := backslash_not_mem_of_isOverlong hlong
      simp only [operandTexts, List.mem_cons, List.not_mem_nil, or_false] at ht
      rcases ht with rfl | rfl
      · rw [← hp.eq_of_not_mem hnot] at hlong
        exact .operand (by simp [operandTexts]) hlong
      · rw [← hg.eq_of_not_mem hnot] at hlong
        exact .operand (by simp [operandTexts]) hlong
  | date hf =>
    cases hd with
    | operand ht hlong =>
      refine .operand ?_ hlong
      rw [operandTexts] at ht ⊢
      rwa [hf.unescape_eq]

end Directive

end BraceTemplate
