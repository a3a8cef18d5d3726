import BraceTemplate.Proofs.Reading

/-!
# BraceTemplate.Proofs.Boundary

Where directives end. Whether a directive runs on into the next one is decided by that one alone
(`runsOn_source_append`): a zone ends at the first closing bracket, and a directive that begins with
a bracket has one.
-/

namespace BraceTemplate

namespace Directive

theorem not_mem_of_isOperand {p : CodePoint → Bool} {w : Text} (h : IsOperand p w) {c : CodePoint}
    (hp : p c = false) (hd : Text.isDecimal c = false) (hb : c ≠ '\x7b' ∧ c ≠ '\x7d') : c ∉ w := by
  intro hc
  cases h with
  | inl hrun =>
    rw [hrun.2 c hc] at hp
    cases hp
  | inr hind =>
    obtain ⟨digits, hdigits, rfl⟩ := hind
    simp only [List.mem_cons, List.mem_append, List.not_mem_nil, or_false] at hc
    rcases hc with hc | hc | hc
    · exact hb.1 hc
    · rw [hdigits c hc] at hd
      cases hd
    · exact hb.2 hc

theorem not_mem_of_isBound {w : Text} (h : IsBound w) {c : CodePoint}
    (hd : Text.isDecimal c = false) (hminus : c ≠ '-') (hb : c ≠ '\x7b' ∧ c ≠ '\x7d') : c ∉ w := by
  rcases h with hop | ⟨digits, hdigits, rfl⟩
  · exact not_mem_of_isOperand hop hd hd hb
  · have := not_mem_of_isOperand (.inl hdigits) hd hd hb
    simp [this, hminus]

theorem not_mem_zone {zone : Text} (h : IsOperand isZoneChar zone) : .char ']' ∉ zone :=
  not_mem_of_isOperand h (by decide) (by decide) (by decide)

/-- The first closing bracket behind `v` is also the one behind `u`, or `u` goes on behind it. -/
theorem append_bracket_cases {u v w x : Text} (hv : .char ']' ∉ v)
    (h : u ++ .char ']' :: w = v ++ .char ']' :: x) :
    (u = v ∧ w = x) ∨ ∃ y, u = v ++ .char ']' :: y := by
  rcases List.append_eq_append_iff.1 h with ⟨a, rfl, ha⟩ | ⟨a, rfl, ha⟩
  · cases a with
    | nil => exact .inl ⟨by simp, by simpa using ha⟩
    | cons c a =>
      cases ha
      exact absurd (by simp) hv
  · cases a with
    | nil => exact .inl ⟨by simp, by simpa using ha.symm⟩
    | cons c a =>
      cases ha
      exact .inr ⟨a, rfl⟩

theorem bracketed_of_leads {d : Directive} (h : d.leads '[' = true) :
    (∃ start bound, d = substring start bound) ∨ ∃ pattern group, d = extract pattern group := by
  have hdecimal : Text.isDecimal '[' = false := by decide
  have hheads : keywordHeads.contains '[' = false := by decide
  cases d with
  | substring start bound => exact .inl ⟨start, bound, rfl⟩
  | extract pattern group => exact .inr ⟨pattern, group, rfl⟩
  | position digits => simp [leads, hdecimal] at h
  | printf specifier => simp [leads] at h
  | _ => simp only [leads, hheads, Bool.false_eq_true] at h

theorem position_of_leads {d : Directive} {c : CodePoint} (h : d.leads c = true)
    (hc : Text.isDecimal c = true) : ∃ digits, d = position digits := by
  have hmarks : c ≠ '[' ∧ c ≠ '%' := by
    constructor
    all_goals
      rintro rfl
      revert hc
      decide
  have hheads : keywordHeads.contains c = false := by
    by_contra hne
    have := isDecimal_keywordHeads c (by simpa using hne)
    rw [this] at hc
    cases hc
  cases d with
  | position digits => exact ⟨digits, rfl⟩
  | substring start bound => simp [leads, hmarks.1] at h
  | extract pattern group => simp [leads, hmarks.1] at h
  | printf specifier => simp [leads, hmarks.2] at h
  | _ => simp only [leads, hheads, Bool.false_eq_true] at h

theorem exists_bracketed {d : Directive} (hd : d.Written) {t : Text}
    (h : d.source = .char '[' :: t) :
    ∃ u, t = u ++ [.char ']'] := by
  obtain ⟨c, v, hc, hl⟩ := source_eq_cons hd
  rw [hc] at h
  cases h
  rcases bracketed_of_leads hl with ⟨start, bound, rfl⟩ | ⟨pattern, group, rfl⟩
  · cases bound with
    | none =>
      cases hc
      exact ⟨start, rfl⟩
    | some b =>
      cases hc
      exact ⟨start ++ b.1 :: b.2, by simp⟩
  · cases hc
    exact ⟨'/' :: (pattern ++ .char '/' :: group), by simp⟩

theorem beginsZone_source_append {d : Directive} (hd : d.Written) (t : Text) :
    BeginsZone (d.source ++ t) ↔ BeginsZone d.source := by
  constructor
  · rintro ⟨zone, rest, hz, h⟩
    obtain ⟨c, v, hv, _⟩ := source_eq_cons hd
    rw [hv, List.cons_append, List.cons.injEq] at h
    obtain ⟨rfl, h⟩ := h
    obtain ⟨u, rfl⟩ := exists_bracketed hd hv
    rw [List.append_assoc, List.singleton_append] at h
    rcases append_bracket_cases (not_mem_zone hz) h with ⟨rfl, _⟩ | ⟨y, rfl⟩
    · exact ⟨u, [], hz, hv⟩
    · exact ⟨zone, y ++ [.char ']'], hz, by rw [hv]; simp⟩
  · rintro ⟨zone, rest, hz, h⟩
    exact ⟨zone, rest ++ t, hz, by rw [h]; simp⟩

theorem head_not_mem_of_written {d : Directive} (hd : d.Written) {c : CodePoint} {t : Text}
    (h : d.source = c :: t) : c ∉ "(,\x7d?.".toText := by
  obtain ⟨c', v, hv, hl⟩ := source_eq_cons hd
  rw [h] at hv
  cases hv
  have hmarks : ∀ x ∈ "(,\x7d?.".toText,
      Text.isDecimal x = false ∧ keywordHeads.contains x = false ∧ x ≠ '[' ∧ x ≠ '%' :=
    forall_mem_of_all (by decide)
  intro hc
  obtain ⟨h1, h2, h3, h4⟩ := hmarks c hc
  have hnot : d.leads c = false := by
    cases d with
    | position digits => exact h1
    | substring start bound => simp [leads, h3]
    | extract pattern group => simp [leads, h3]
    | printf specifier => simp [leads, h4]
    | _ => exact h2
  rw [hnot] at hl
  cases hl

theorem runsOn_source_append {d e : Directive} (he : e.Written) (t : Text) :
    d.RunsOn (e.source ++ t) ↔ d.RunsOn e.source := by
  obtain ⟨c, v, hv, _⟩ := source_eq_cons he
  match d with
  | position _ =>
    rw [hv]
    constructor
    · rintro ⟨x, rest, hx, h⟩
      cases h
      exact ⟨c, v, hx, rfl⟩
    · rintro ⟨x, rest, hx, h⟩
      cases h
      exact ⟨c, v ++ t, hx, rfl⟩
  | date _ _ none =>
    have hc : c ≠ '(' := by
      rintro rfl
      exact head_not_mem_of_written he hv (by simp)
    rw [hv]
    constructor
    · rintro ⟨format, rest, _, h⟩
      exact absurd (List.cons.inj h).1 hc
    · rintro ⟨format, rest, _, h⟩
      exact absurd (List.cons.inj h).1 hc
  | date _ _ (some (_, none)) => exact beginsZone_source_append he t
  | date _ _ (some (_, some _)) => exact Iff.rfl
  | trim _ => exact Iff.rfl
  | lower _ => exact Iff.rfl
  | upper _ => exact Iff.rfl
  | codec _ => exact Iff.rfl
  | substring _ _ => exact Iff.rfl
  | extract _ _ => exact Iff.rfl
  | printf _ => exact Iff.rfl

/-- The directives that run on: a position into a digit, a date keyword into a format, and a format
without a zone into a zone. -/
theorem runsOn_cases {d : Directive} {t : Text} (h : d.RunsOn t) :
    (∃ digits c rest, d = position digits ∧ Text.isDecimal c = true ∧ t = c :: rest) ∨
    (∃ isClock w, d = date isClock w none ∧ BeginsFormat t) ∨
    (∃ isClock w format, d = date isClock w (some (format, none)) ∧ BeginsZone t) := by
  unfold RunsOn at h
  split at h
  · obtain ⟨c, rest, hc, ht⟩ := h
    exact .inl ⟨_, c, rest, rfl, hc, ht⟩
  · exact .inr (.inl ⟨_, _, rfl, h⟩)
  · exact .inr (.inr ⟨_, _, _, rfl, h⟩)
  · exact h.elim

theorem not_runsOn_cons {d : Directive} {c : CodePoint} {t : Text}
    (hdecimal : Text.isDecimal c = false)
    (hformat : c ≠ '(') (hzone : c ≠ '[') : ¬ d.RunsOn (c :: t) := by
  intro h
  rcases runsOn_cases h with ⟨_, x, rest, -, hx, ht⟩ | ⟨_, _, -, format, rest, -, ht⟩ |
    ⟨_, _, _, -, zone, rest, -, ht⟩
  · cases ht
    rw [hdecimal] at hx
    cases hx
  · exact hformat (List.cons.inj ht).1
  · exact hzone (List.cons.inj ht).1

theorem not_runsOn_of_head {d : Directive} {c : CodePoint} {t : Text}
    (hc : c = ',' ∨ c = '\x7d') : ¬ d.RunsOn (c :: t) := by
  have hmarks : ∀ x ∈ ",\x7d".toText, Text.isDecimal x = false ∧ x ≠ '(' ∧ x ≠ '[' :=
    forall_mem_of_all (by decide)
  obtain ⟨h1, h2, h3⟩ := hmarks c (by simpa using hc)
  exact not_runsOn_cons h1 h2 h3

/-- The directives that run on into a directive: a position into a position, and a format without a
zone into brackets. -/
theorem runsOn_source_cases {d e : Directive} (he : e.Written) (h : d.RunsOn e.source) :
    (∃ digits c t, d = position digits ∧ Text.isDecimal c = true ∧ e.source = c :: t) ∨
    (∃ isClock w format, d = date isClock w (some (format, none)) ∧ BeginsZone e.source) := by
  rcases runsOn_cases h with hdigit | ⟨_, _, -, format, rest, -, hsource⟩ | hzone
  · exact .inl hdigit
  · -- no directive begins with a parenthesis
    exact absurd (by simp) (head_not_mem_of_written he hsource)
  · exact .inr hzone

end Directive

end BraceTemplate
