import BraceTemplate.Body.Basic
import BraceTemplate.Proofs.Boundary
import Mathlib.Data.List.Chain

/-!
# BraceTemplate.Proofs.Decomposition

Reading a whole body. A body decomposes into directives of the grammar, none of which would run on
into the next one, and reading gives just these (`parse_append_eq_some_iff`). The decomposition does
not mention what follows the closing brace, so neither does the meaning of the body
(`compile_eq_some_iff_parse`).
-/

namespace BraceTemplate

namespace Body

/-- Of two directives in a row the first one ends before the second, or before its own comma. -/
def Apart (x y : Directive × Bool) : Prop := x.2 = false → ¬ x.1.RunsOn y.1.source

/-- The directives of a body as they are read: each of a form, and none that would run on into the
next one. -/
structure Decomposes (raw : Text) (ds : List (Directive × Bool)) : Prop where
  written : ∀ x ∈ ds, x.1.Written
  apart : ds.IsChain Apart
  source_eq : source ds = raw

theorem source_cons (d : Directive) (comma : Bool) (ds : List (Directive × Bool)) :
    source ((d, comma) :: ds) = d.source ++ ((if comma then [.char ','] else []) ++ source ds) := by
  simp [source]

theorem dropComma_append (comma : Bool) {t : Text} (h : ∀ u, t ≠ .char ',' :: u) :
    dropComma ((if comma then [.char ','] else []) ++ t) = (comma, t) := by
  cases comma with
  | true => rfl
  | false =>
    rw [if_neg (by simp), List.nil_append, dropComma]
    exact fun u hu => h u hu

theorem append_dropComma (t : Text) :
    (if (dropComma t).1 then [.char ','] else []) ++ (dropComma t).2 = t := by
  unfold dropComma
  split <;> rfl

theorem read?_eq_none {c : CodePoint} (hc : c ∈ "(,\x7d?.".toText) (s : Text) :
    Directive.read? (c :: s) = none := by
  cases h : Directive.read? (c :: s) with
  | none => rfl
  | some r =>
    obtain ⟨hw, _, hsource⟩ := Directive.read?_eq_some_iff.1 h
    obtain ⟨c', t, hc', _⟩ := Directive.source_eq_cons hw
    rw [hc'] at hsource
    cases hsource
    exact absurd hc (Directive.head_not_mem_of_written hw hc')

theorem readDirectives_eq_nil {c : CodePoint} (hc : c ∈ "(,\x7d?.".toText) (s : Text) :
    readDirectives (c :: s) = ([], c :: s) := by
  rw [readDirectives]
  split
  · rfl
  · rename_i h
    rw [read?_eq_none hc] at h
    cases h

theorem parse_eq_none {c : CodePoint} (hc : c = '?' ∨ c = '.') (s : Text) :
    parse (c :: s) = .ok none := by
  have hread : readDirectives (c :: s) = ([], c :: s) :=
    readDirectives_eq_nil (by rcases hc with rfl | rfl <;> decide) s
  unfold parse
  rw [hread]
  rcases hc with rfl | rfl
  · rfl
  · rfl

theorem isChain_cons_of_read {d : Directive} {comma : Bool} {ds : List (Directive × Bool)}
    {u : Text} (hd : ¬ d.RunsOn ((if comma then [.char ','] else []) ++ (source ds ++ u)))
    (hw : ∀ x ∈ ds, x.1.Written)
    (ha : ds.IsChain Apart) : ((d, comma) :: ds).IsChain Apart := by
  cases ds with
  | nil => exact .singleton _
  | cons y ds =>
    refine .cons_cons ?_ ha
    rintro rfl hrun
    apply hd
    rw [if_neg (by simp), List.nil_append, source_cons, List.append_assoc]
    exact (Directive.runsOn_source_append (hw y (by simp)) _).2 hrun

theorem Decomposes.cons {raw : Text} {d : Directive} {comma : Bool}
    {ds : List (Directive × Bool)} (h : Decomposes raw ds) (hd : d.Written)
    (ha : ((d, comma) :: ds).IsChain Apart) :
    Decomposes (d.source ++ ((if comma then [.char ','] else []) ++ raw)) ((d, comma) :: ds) := by
  refine ⟨?_, ha, by rw [source_cons, h.source_eq]⟩
  intro x hx
  rcases List.mem_cons.1 hx with rfl | hx
  · exact hd
  · exact h.written x hx

/-- What is read is of the grammar. -/
theorem decomposes_readDirectives (t : Text) :
    Decomposes (source (readDirectives t).1) (readDirectives t).1 := by
  fun_induction readDirectives t with
  | case1 => exact ⟨by simp, .nil, rfl⟩
  | case2 t d rest h next ih =>
    obtain ⟨hd, hrun, _⟩ := Directive.read?_eq_some_iff.1 h
    have hrest := source_append_of_readDirectives (dropComma rest).2
    rw [source_cons]
    refine ih.cons hd (isChain_cons_of_read (u := next.2) ?_ ih.written ih.apart)
    rwa [hrest, append_dropComma]

theorem not_runsOn_of_isChain {d : Directive} {comma : Bool} {ds : List (Directive × Bool)}
    (hw : ∀ x ∈ ds, x.1.Written) (ha : ((d, comma) :: ds).IsChain Apart) (s : Text) :
    ¬ d.RunsOn ((if comma then [.char ','] else []) ++ (source ds ++ .char '\x7d' :: s)) := by
  cases comma with
  | true => exact Directive.not_runsOn_of_head (.inl rfl)
  | false =>
    cases ds with
    | nil => exact Directive.not_runsOn_of_head (.inr rfl)
    | cons y ds =>
      rw [if_neg (by simp), List.nil_append, source_cons, List.append_assoc,
        Directive.runsOn_source_append (hw y (by simp))]
      exact ha.rel rfl

theorem source_append_ne_comma {ds : List (Directive × Bool)} (hw : ∀ x ∈ ds, x.1.Written)
    (s u : Text) : source ds ++ .char '\x7d' :: s ≠ .char ',' :: u := by
  intro hu
  cases ds with
  | nil => cases hu
  | cons y ds =>
    have hy : y.1.Written := hw y (by simp)
    obtain ⟨c, t, hc, _⟩ := Directive.source_eq_cons hy
    rw [source_cons, hc] at hu
    cases hu
    exact Directive.head_not_mem_of_written hy hc (by simp)

theorem readDirectives_append {ds : List (Directive × Bool)} (hw : ∀ x ∈ ds, x.1.Written)
    (ha : ds.IsChain Apart) (s : Text) :
    readDirectives (source ds ++ .char '\x7d' :: s) = (ds, .char '\x7d' :: s) := by
  induction ds with
  | nil => exact readDirectives_eq_nil (by simp) s
  | cons x ds ih =>
    obtain ⟨d, comma⟩ := x
    have hds : ∀ y ∈ ds, y.1.Written := fun y hy => hw y (by simp [hy])
    have hread := Directive.read?_append (hw (d, comma) (by simp)) (not_runsOn_of_isChain hds ha s)
    have hcomma := dropComma_append comma (source_append_ne_comma hds s)
    rw [source_cons, List.append_assoc, List.append_assoc, readDirectives]
    split
    · rename_i h
      rw [hread] at h
      cases h
    · rename_i h
      rw [hread] at h
      cases h
      rw [hcomma, ih hds ha.of_cons]

theorem parse_append_eq_some_iff {raw s : Text} {b : Body} :
    parse (raw ++ .char '\x7d' :: s) = .ok (some (b, s)) ↔
      ∃ ds steps, Decomposes raw ds ∧ Directive.compileAll (ds.map (·.1)) = .ok steps ∧
        b = ofSteps raw steps := by
  constructor
  · intro h
    have hraw := raw_append_of_parse h
    unfold parse at h
    split at h
    · cases h
    · rename_i steps hsteps
      split at h
      · rename_i rest hrest
        cases h
        have hsource : source (readDirectives (raw ++ .char '\x7d' :: s)).1 = raw :=
          List.append_cancel_right hraw
        refine ⟨_, steps, ?_, hsteps, by rw [hsource]⟩
        have := decomposes_readDirectives (raw ++ .char '\x7d' :: s)
        rwa [hsource] at this
      · cases h
  · rintro ⟨ds, steps, hds, hsteps, rfl⟩
    have hread := readDirectives_append hds.written hds.apart s
    rw [hds.source_eq] at hread
    simp only [parse, hread, hsteps, hds.source_eq]

theorem compile_eq_some_iff_parse {raw s : Text} {b : Body} :
    compile raw = .ok (some b) ↔ parse (raw ++ .char '\x7d' :: s) = .ok (some (b, s)) := by
  rw [parse_append_eq_some_iff, ← parse_append_eq_some_iff (s := [])]
  unfold compile
  constructor
  · intro h
    split at h
    · cases h
    · rename_i hp
      cases h
      exact hp
    · cases h
  · intro h
    rw [h]

end Body

end BraceTemplate
