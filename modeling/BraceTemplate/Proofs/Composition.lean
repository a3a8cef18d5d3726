import BraceTemplate.Proofs.Decomposition

/-!
# BraceTemplate.Proofs.Composition

Which bodies are accepted. A body need not be composed the way it is read: two positions in a row
are read as one, and a format with bracketed digits behind it is read as a format with a zone. Any
composition of complete directives is accepted all the same, by joining the directives that run on
(`exists_decomposes`), with one exception: a zone is taken as soon as it can be read, also out of
the pattern of an extraction, and what is left of the extraction is no directive.
-/

namespace BraceTemplate

namespace Directive

/-- A format without a zone takes the beginning of an extraction for one: a closing bracket stands
in the pattern and only zone characters before it. -/
def Hides : Directive → Directive → Prop
  | date _ _ (some (_, none)), extract pattern _ =>
    ∃ u v, pattern = u ++ .char ']' :: v ∧ ∀ c ∈ u, isZoneChar c = true
  | _, _ => False

theorem extract_of_hides {d e : Directive} (h : d.Hides e) :
    ∃ pattern group, e = extract pattern group := by
  unfold Hides at h
  split at h
  · exact ⟨_, _, rfl⟩
  · exact h.elim

theorem runsOn_of_hides {d e : Directive} (h : d.Hides e) : d.RunsOn e.source := by
  unfold Hides at h
  split at h
  · rename_i group
    obtain ⟨u, v, rfl, hu⟩ := h
    refine ⟨.char '/' :: u, v ++ .char '/' :: (group ++ [.char ']']),
      .inl ⟨by simp, ?_⟩, by simp [source]⟩
    intro c hc
    rcases List.mem_cons.1 hc with rfl | hc
    · decide
    · exact hu c hc
  · exact h.elim

theorem eq_zone_of_not_mem {inner zone rest : Text} (hinner : .char ']' ∉ inner)
    (hzone : .char ']' ∉ zone)
    (h : inner ++ [.char ']'] = zone ++ .char ']' :: rest) : inner = zone := by
  rcases append_bracket_cases hzone h with ⟨hi, _⟩ | ⟨y, rfl⟩
  · exact hi
  · exact absurd (by simp) hinner

theorem source_eq_of_zone_substring {start zone rest : Text} {bound : Option (CodePoint × Text)}
    (he : (substring start bound).Written) (hz : IsOperand isZoneChar zone)
    (h : (substring start bound).source = .char '[' :: (zone ++ .char ']' :: rest)) :
    (substring start bound).source = .char '[' :: (zone ++ [.char ']']) := by
  cases he with
  | start hs =>
    have hstart := not_mem_of_isOperand hs (c := ']') (by decide) (by decide) (by decide)
    have heq := eq_zone_of_not_mem hstart (not_mem_zone hz) (by simpa [source] using h)
    simp [source, heq]
  | @bounds _ bound mark hs hm hb =>
    -- no zone has the mark
    have hmark : isZoneChar mark = false ∧ Text.isDecimal mark = false ∧
        (mark ≠ '\x7b' ∧ mark ≠ '\x7d') ∧ mark ≠ ']' := by
      rcases hm with rfl | rfl
      · decide
      · decide
    have hstart := not_mem_of_isOperand hs (c := ']') (by decide) (by decide) (by decide)
    have hbound := not_mem_of_isBound hb (c := ']') (by decide) (by decide) (by decide)
    have hinner : .char ']' ∉ start ++ mark :: bound := by
      simp [hstart, hbound, hmark.2.2.2.symm]
    have heq := eq_zone_of_not_mem hinner (not_mem_zone hz) (by simpa [source] using h)
    have hnot := not_mem_of_isOperand hz hmark.1 hmark.2.1 hmark.2.2.1
    rw [← heq] at hnot
    exact absurd (by simp) hnot

theorem source_eq_of_zone_extract {pattern group zone rest : Text}
    (he : (extract pattern group).Written) (hz : IsOperand isZoneChar zone)
    (h : (extract pattern group).source = .char '[' :: (zone ++ .char ']' :: rest))
    (hh : ¬ ∃ u v, pattern = u ++ .char ']' :: v ∧ ∀ c ∈ u, isZoneChar c = true) :
    (extract pattern group).source = .char '[' :: (zone ++ [.char ']']) := by
  cases he with
  | extract hp hg =>
    by_cases hpattern : .char ']' ∈ pattern
    · obtain ⟨u, v, rfl, hu⟩ := List.eq_append_cons_of_mem hpattern
      refine absurd ⟨u, v, rfl, ?_⟩ hh
      have hcons : .char '/' :: u ++ .char ']' :: (v ++ .char '/' :: (group ++ [.char ']'])) =
          zone ++ .char ']' :: rest := by
        simpa [source] using h
      have hzu : .char '/' :: u = zone := by
        rcases append_bracket_cases (not_mem_zone hz) hcons with ⟨hzu, _⟩ | ⟨y, hy⟩
        · exact hzu
        · have : .char ']' ∉ .char '/' :: u := by simp [hu]
          rw [hy] at this
          exact absurd (by simp) this
      subst hzu
      rcases hz with hrun | ⟨digits, _, hd⟩
      · exact fun c hc => hrun.2 c (by simp [hc])
      · cases hd
    · have hinner : .char ']' ∉ .char '/' :: (pattern ++ .char '/' :: group) := by
        simp [hpattern, hg]
      have heq := eq_zone_of_not_mem hinner (not_mem_zone hz) (by simpa [source] using h)
      simp [source, ← heq]

theorem isOperand_of_beginsZone {e : Directive} (he : e.Written) (h : BeginsZone e.source)
    (hh : ∀ pattern group, e = extract pattern group →
      ¬ ∃ u v, pattern = u ++ .char ']' :: v ∧ ∀ c ∈ u, isZoneChar c = true) :
    ∃ zone, IsOperand isZoneChar zone ∧ e.source = .char '[' :: (zone ++ [.char ']']) := by
  obtain ⟨zone, rest, hz, hsource⟩ := h
  refine ⟨zone, hz, ?_⟩
  obtain ⟨c, t, hc, hl⟩ := source_eq_cons he
  rw [hsource] at hc
  cases hc
  rcases bracketed_of_leads hl with ⟨start, bound, rfl⟩ | ⟨pattern, group, rfl⟩
  · exact source_eq_of_zone_substring he hz hsource
  · exact source_eq_of_zone_extract he hz hsource (hh pattern group rfl)

/-- Two directives that run on are one directive. It ends where the second one does, and it is no
extraction. -/
structure Joins (d e f : Directive) : Prop where
  written : f.Written
  source_eq : f.source = d.source ++ e.source
  runsOn : ∀ {t}, f.RunsOn t → e.RunsOn t
  ne_extract : ∀ {pattern group}, f ≠ extract pattern group

theorem joins_position {digits : Text} {e : Directive} (hd : (position digits).Written)
    (he : e.Written) (h : (position digits).RunsOn e.source) :
    ∃ f, Joins (position digits) e f := by
  obtain ⟨c, t, hc, ht⟩ := h
  obtain ⟨c', t', hv, hl⟩ := source_eq_cons he
  rw [hv] at ht
  cases ht
  obtain ⟨more, rfl⟩ := position_of_leads hl hc
  cases hd with
  | position hdigits =>
    cases he with
    | position hmore =>
      refine ⟨position (digits ++ more), .position ⟨by simp [hdigits.1], ?_⟩, rfl, id, by simp⟩
      intro x hx
      rcases List.mem_append.1 hx with hx | hx
      · exact hdigits.2 x hx
      · exact hmore.2 x hx

theorem joins_format {isClock : Bool} {word format : Text} {e : Directive}
    (hd : (date isClock word (some (format, none))).Written) (he : e.Written)
    (h : (date isClock word (some (format, none))).RunsOn e.source)
    (hh : ¬ (date isClock word (some (format, none))).Hides e) :
    ∃ f, Joins (date isClock word (some (format, none))) e f := by
  obtain ⟨zone, hz, hsource⟩ := isOperand_of_beginsZone he h (by rintro pattern group rfl; exact hh)
  cases hd with
  | format hw hf =>
    refine ⟨date isClock word (some (format, some zone)), .zone hw hf hz, ?_, ?_, by simp⟩
    · rw [hsource]
      simp [source]
    · intro t ht
      exact ht.elim

theorem exists_joins {d e : Directive} (hd : d.Written) (he : e.Written)
    (h : d.RunsOn e.source) (hh : ¬ d.Hides e) : ∃ f, Joins d e f := by
  rcases runsOn_source_cases he h with ⟨digits, _, _, rfl, _, _⟩ | ⟨isClock, w, format, rfl, _⟩
  · exact joins_position hd he h
  · exact joins_format hd he h hh

end Directive

namespace Body

open Directive

/-- The directive that a body begins with. -/
def head? (ds : List (Directive × Bool)) : Option Directive := ds.head?.map Prod.fst

theorem Decomposes.join {raw : Text} {d e f : Directive} {comma : Bool}
    {ds : List (Directive × Bool)} (h : Decomposes raw ((e, comma) :: ds)) (hf : Joins d e f) :
    Decomposes (d.source ++ raw) ((f, comma) :: ds) := by
  refine ⟨?_, List.IsChain.imp_head (fun hx hc ht => hx hc (hf.runsOn ht)) h.apart, ?_⟩
  · intro x hx
    rcases List.mem_cons.1 hx with rfl | hx
    · exact hf.written
    · exact h.written x (by simp [hx])
  · rw [source_cons, hf.source_eq, ← h.source_eq, source_cons, List.append_assoc]

/-- A composition of complete directives has a decomposition. By induction from the right: the
first directive is joined with the next one or stands before it. Joining gives no extraction, so an
extraction in front is one that the composition has in front. -/
theorem exists_decomposes {ds : List (Directive × Bool)} (hw : ∀ x ∈ ds, x.1.Written)
    (ha : ds.IsChain fun x y => x.2 = false → ¬ x.1.Hides y.1) :
    ∃ es, Decomposes (source ds) es ∧ ∀ pattern group,
      head? es = some (.extract pattern group) → head? ds = some (.extract pattern group) := by
  induction ds with
  | nil => exact ⟨[], ⟨by simp, .nil, rfl⟩, fun _ _ h => h⟩
  | cons x ds ih =>
    obtain ⟨d, comma⟩ := x
    obtain ⟨es, hes, hfront⟩ := ih (fun y hy => hw y (by simp [hy])) ha.of_cons
    have hd : d.Written := hw (d, comma) (by simp)
    rw [source_cons]
    by_cases hrun : comma = false ∧ ∃ y ∈ es.head?, d.RunsOn y.1.source
    · obtain ⟨rfl, ⟨e, comma⟩, he, hrun⟩ := hrun
      obtain ⟨es, rfl⟩ := List.head?_eq_some_iff.1 he
      have hhides : ¬ d.Hides e := by
        intro hh
        obtain ⟨pattern, group, rfl⟩ := extract_of_hides hh
        have hhead := hfront pattern group rfl
        cases ds with
        | nil => cases hhead
        | cons z ds =>
          have hz : z.1 = extract pattern group := Option.some.inj hhead
          rw [← hz] at hh
          exact ha.rel rfl hh
      obtain ⟨f, hf⟩ := exists_joins hd (hes.written (e, comma) (by simp)) hrun hhides
      refine ⟨(f, comma) :: es, hes.join hf, ?_⟩
      intro pattern group hhead
      exact absurd (Option.some.inj hhead) hf.ne_extract
    · have hapart : ∀ y ∈ es.head?, Apart (d, comma) y :=
        fun y hy hc ht => hrun ⟨hc, y, hy, ht⟩
      exact ⟨(d, comma) :: es, hes.cons hd (List.isChain_cons.2 ⟨hapart, hes.apart⟩),
        fun _ _ h => h⟩

theorem isSome_iff_decomposes {raw : Text} {r : Option Body} (h : compile raw = .ok r) :
    r.isSome ↔ ∃ ds, Decomposes raw ds := by
  constructor
  · intro hr
    obtain ⟨b, rfl⟩ := Option.isSome_iff_exists.1 hr
    obtain ⟨ds, _, hds, _⟩ := parse_append_eq_some_iff.1 (compile_eq_some_iff_parse (s := []).1 h)
    exact ⟨ds, hds⟩
  · rintro ⟨ds, hds⟩
    cases hsteps : Directive.compileAll (ds.map (·.1)) with
    | ok steps =>
      have hp := compile_eq_some_iff_parse.2
        (parse_append_eq_some_iff (s := []).2 ⟨ds, steps, hds, hsteps, rfl⟩)
      rw [h] at hp
      cases hp
      rfl
    | error f =>
      have hread := readDirectives_append hds.written hds.apart []
      rw [hds.source_eq] at hread
      simp [compile, parse, hread, hsteps] at h

/-- A body that does not fail is accepted exactly if it is composed of complete directives, each
with at most one comma behind it, and none of them takes the beginning of the next one for its
zone. -/
theorem compile_isSome_iff {raw : Text} {r : Option Body} (h : compile raw = .ok r) :
    r.isSome ↔ ∃ ds : List (Directive × Bool), (∀ x ∈ ds, x.1.Written) ∧ source ds = raw ∧
      ds.IsChain fun x y => x.2 = false → ¬ x.1.Hides y.1 := by
  rw [isSome_iff_decomposes h]
  constructor
  · rintro ⟨ds, hds⟩
    exact ⟨ds, hds.written, hds.source_eq,
      hds.apart.imp fun x y hrun hc hh => hrun hc (runsOn_of_hides hh)⟩
  · rintro ⟨ds, hw, rfl, ha⟩
    obtain ⟨es, hes, _⟩ := exists_decomposes hw ha
    exact ⟨es, hes⟩

/-- Two positions that are read as one, and a format whose zone is read from behind it. -/
theorem compile_isSome_joined :
    (some (⟨"12date(x)[3]".toText, .position 12,
      [.date (.literal (some ['x'])) (.literal (some ['3']))]⟩ : Body)).isSome ↔
    ∃ ds : List (Directive × Bool), (∀ x ∈ ds, x.1.Written) ∧ source ds = "12date(x)[3]".toText ∧
      ds.IsChain fun x y => x.2 = false → ¬ x.1.Hides y.1 :=
  compile_isSome_iff (by decide +kernel)

/-- A zone taken out of a pattern: the body is composed of a format and an extraction, and is not
accepted. -/
theorem not_isSome_hidden : ¬ ∀ (raw : Text) (r : Option Body), compile raw = .ok r →
    (r.isSome ↔ ∃ ds : List (Directive × Bool), (∀ x ∈ ds, x.1.Written) ∧ source ds = raw) := by
  intro h
  have hnone : compile "date(x)[/a]/b]".toText = .ok none := by decide +kernel
  have hdate : (date false "date".toText (some (['x'], none))).Written := by
    refine .format ?_ (.plain (by decide) (by decide) .nil)
    simp [Spells, dateWord, Text.isLetterAnyCase]
  have hextract : (extract "a]".toText ['b']).Written :=
    .extract (.plain (by decide) (by decide) (.plain (by decide) (by decide) .nil)) (by decide)
  have hsome := (h _ _ hnone).2 ⟨[(date false "date".toText (some (['x'], none)), false),
    (extract "a]".toText ['b'], false)],
    List.forall_mem_cons.2 ⟨hdate, List.forall_mem_singleton.2 hextract⟩, by decide⟩
  cases hsome

end Body

end BraceTemplate
