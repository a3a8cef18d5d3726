import BraceTemplate.Console.Markup
import BraceTemplate.Console.Table
import BraceTemplate.Proofs.ScalarText

/-!
# BraceTemplate.Proofs.Printing

What the console prints. Laying a text out adds nothing to it but blanks and line feeds, so that a
text without surrogates is printed as one (`isScalar_print`); so are its markup
(`isScalar_of_printMarkup?`) and tables of such texts (`isScalar_table`). Without a slash no tag
closes anything, and a text with markup is printed (`exists_printMarkup?_of_not_mem`).
-/

namespace BraceTemplate

theorem Text.subset_of_mem_splitOn {sep : CodePoint} {t p : Text} (h : p ∈ Text.splitOn sep t) :
    p ⊆ t := by
  induction t generalizing p with
  | nil => simp_all [splitOn]
  | cons c t ih =>
    rw [splitOn] at h
    split at h
    · rcases List.mem_cons.1 h with rfl | h
      · exact List.nil_subset _
      · exact List.Subset.trans (ih h) (List.subset_cons_self c t)
    · split at h
      · simp_all
      · rename_i q qs hsplit
        rw [hsplit] at ih
        rcases List.mem_cons.1 h with rfl | h
        · exact List.cons_subset_cons c (ih List.mem_cons_self)
        · exact List.Subset.trans (ih (List.mem_cons_of_mem q h)) (List.subset_cons_self c t)

namespace Console

open Text

variable {t : Text} {width : Nat}

/-! ## Lines -/

theorem isScalar_expandTabs (h : t.IsScalar) (column : Nat) : (expandTabs column t).IsScalar := by
  induction t generalizing column with
  | nil => exact isScalar_nil
  | cons c t ih =>
    rw [isScalar_cons] at h
    rw [expandTabs]
    split
    · exact isScalar_append.2 ⟨isScalar_replicate ' ' _, ih h.2 _⟩
    · exact isScalar_cons.2 ⟨h.1, ih h.2 _⟩

theorem splitWord_append (t : Text) : (splitWord t).1 ++ (splitWord t).2 = t := by
  simp only [splitWord, List.append_assoc, List.takeWhile_append_dropWhile]

theorem isScalar_of_mem_words {fuel : Nat} {w : Text} (h : t.IsScalar) (hw : w ∈ words fuel t) :
    w.IsScalar := by
  induction fuel generalizing t with
  | zero => cases hw
  | succ fuel ih =>
    rw [words] at hw
    split at hw
    · cases hw
    · rw [← splitWord_append t, isScalar_append] at h
      rcases List.mem_cons.1 hw with rfl | hw
      · exact h.1
      · exact ih h.2 hw

theorem isScalar_of_mem_chop {taken : Nat} (h : t.IsScalar) :
    ∀ p ∈ chop width taken t, p.IsScalar := by
  induction t generalizing taken with
  | nil => exact List.forall_mem_singleton.2 isScalar_nil
  | cons c t ih =>
    rw [isScalar_cons] at h
    rw [chop]
    split
    · have hrest := @ih (charWidth c) h.2
      split
      · rename_i hchop
        rw [hchop, List.forall_mem_cons] at hrest
        simp only [List.forall_mem_cons, isScalar_nil, isScalar_cons, true_and]
        exact ⟨⟨h.1, hrest.1⟩, hrest.2⟩
      · simp [h.1]
    · have hrest := @ih (taken + charWidth c) h.2
      split
      · rename_i hchop
        rw [hchop, List.forall_mem_cons] at hrest
        simp only [List.forall_mem_cons, isScalar_cons]
        exact ⟨⟨h.1, hrest.1⟩, hrest.2⟩
      · simp [h.1]

/-- No line has a surrogate so far. -/
structure Wrapping.IsScalar (w : Wrapping) : Prop where
  done : ∀ line ∈ w.done, line.IsScalar
  current : w.current.IsScalar

theorem Wrapping.IsScalar.add {w : Wrapping} {word : Text} (h : w.IsScalar)
    (hword : word.IsScalar) : (w.add width word).IsScalar := by
  have hdone : ∀ line ∈ (if w.current.isEmpty then w.done else w.current :: w.done),
      line.IsScalar := by
    split
    · exact h.done
    · exact List.forall_mem_cons.2 ⟨h.current, h.done⟩
  simp only [Wrapping.add]
  split
  · exact ⟨h.done, isScalar_append.2 ⟨h.current, hword⟩⟩
  split
  · have hpieces : ∀ p ∈ chop width 0 word, p.IsScalar := isScalar_of_mem_chop hword
    refine ⟨List.forall_mem_append.2 ⟨fun p hp => ?_, hdone⟩, ?_⟩
    · exact hpieces p (List.dropLast_subset _ (List.mem_reverse.1 hp))
    · cases hlast : (chop width 0 word).getLast? with
      | none => simp [List.getLastD_eq_getLast?, hlast]
      | some p =>
        have hp := hpieces p (List.mem_of_getLast? hlast)
        simpa [List.getLastD_eq_getLast?, hlast] using hp
  · exact ⟨hdone, hword⟩

theorem Wrapping.IsScalar.foldl {ws : List Text} (hws : ∀ w ∈ ws, w.IsScalar) {w : Wrapping}
    (h : w.IsScalar) : (ws.foldl (Wrapping.add width) w).IsScalar := by
  induction ws generalizing w with
  | nil => exact h
  | cons word ws ih =>
    rw [List.forall_mem_cons] at hws
    exact ih hws.2 (h.add hws.1)

theorem isScalar_crop (h : t.IsScalar) : (crop width t).IsScalar := by
  induction t generalizing width with
  | nil => exact isScalar_nil
  | cons c t ih =>
    rw [isScalar_cons] at h
    rw [crop]
    split
    · exact isScalar_cons.2 ⟨h.1, ih h.2⟩
    · exact isScalar_replicate ' ' _

theorem isScalar_of_mem_wrapLine (h : t.IsScalar) : ∀ line ∈ wrapLine width t, line.IsScalar := by
  have htabs : IsScalar (if t.contains '\t' then expandTabs 0 t else t) := by
    split
    · exact isScalar_expandTabs h 0
    · exact h
  simp only [wrapLine, List.forall_mem_map]
  generalize (if t.contains '\t' then expandTabs 0 t else t) = u at htabs
  intro line hline
  have hscalar : line.IsScalar := by
    split at hline
    · cases List.mem_singleton.1 hline
      exact htabs
    · have hwords : ∀ w ∈ words u.length u, w.IsScalar := fun _ => isScalar_of_mem_words htabs
      have hwrapped : ((words u.length u).foldl (Wrapping.add width) ⟨[], []⟩).IsScalar :=
        .foldl hwords ⟨List.forall_mem_nil _, isScalar_nil⟩
      rcases List.mem_cons.1 (List.mem_reverse.1 hline) with rfl | hdone
      · exact hwrapped.current
      · exact hwrapped.done line hdone
  have hcropped : (cropBlanks width line).IsScalar := hscalar.take _
  split
  · exact isScalar_crop hcropped
  · exact hcropped

theorem isScalar_of_mem_wrap (h : t.IsScalar) : ∀ line ∈ wrap width t, line.IsScalar := by
  intro line hline
  obtain ⟨p, hp, hline⟩ := List.mem_flatMap.1 hline
  exact isScalar_of_mem_wrapLine (h.subset (subset_of_mem_splitOn hp)) line hline

theorem isScalar_print (h : t.IsScalar) : (print t).IsScalar := by
  have hkept : (dropControls t).IsScalar := h.subset List.filter_sublist.subset
  exact isScalar_append.2 ⟨isScalar_join (by decide) (isScalar_of_mem_wrap hkept), by decide⟩

/-! ## Emoji -/

theorem isScalar_of_emoji? {name e : Text} (h : emoji? name = some e) : e.IsScalar := by
  obtain ⟨row, hrow, h⟩ := List.exists_of_findSome?_eq_some h
  have hscalar : row.IsScalar :=
    (isScalar_ofChars emojiRows.toList).subset (subset_of_mem_splitOn hrow)
  have hblanks : IsScalar (row.map fun c => if c = .char '\n' then .char ' ' else c) := by
    intro c hc
    obtain ⟨d, hd, rfl⟩ := List.mem_map.1 hc
    split
    · rfl
    · exact hscalar d hd
  rw [emojiOfRow?] at h
  split at h
  · rename_i emoji names hnames
    split at h
    · cases h
      have hmem := List.mem_of_mem_filter (hnames ▸ List.mem_cons_self)
      exact hblanks.subset (subset_of_mem_splitOn hmem)
    · cases h
  · cases h

theorem isScalar_splitVariant {name : Text} (h : name.IsScalar) :
    (splitVariant name).1.IsScalar ∧ (splitVariant name).2.IsScalar := by
  unfold splitVariant
  simp only
  cases hfound : variants.findSome? fun (v : Text × CodePoint) =>
      (after? v.1.reverse name.reverse).map fun rest => (rest.reverse, [v.2]) with
  | none => exact ⟨h, isScalar_nil⟩
  | some found =>
    obtain ⟨v, hv, hmap⟩ := List.exists_of_findSome?_eq_some hfound
    obtain ⟨rest, hrest, rfl⟩ := Option.map_eq_some_iff.1 hmap
    have hname := isScalar_reverse.2 h
    rw [after?_eq_some_iff.1 hrest, isScalar_append] at hname
    have hvariants : ∀ v ∈ variants, v.2.isSurrogate = false := by
      simp [variants, CodePoint.isSurrogate_ofNat]
    exact ⟨isScalar_reverse.2 hname.2, isScalar_cons.2 ⟨hvariants v hv, isScalar_nil⟩⟩

theorem isScalar_emojiText {name : Text} (h : name.IsScalar) : (emojiText name).IsScalar := by
  have hvariant := (isScalar_splitVariant h).2
  unfold emojiText
  simp only
  cases hemoji : emoji? (lower (splitVariant name).1) with
  | none => simp [h]
  | some e => exact isScalar_append.2 ⟨isScalar_of_emoji? hemoji, hvariant⟩

theorem isScalar_replaceEmoji {fuel : Nat} (h : t.IsScalar) : (replaceEmoji fuel t).IsScalar := by
  induction fuel generalizing t with
  | zero => exact h
  | succ fuel ih =>
    cases t with
    | nil => exact isScalar_nil
    | cons c rest =>
      rw [isScalar_cons] at h
      have hrest := h.2
      have hkept : IsScalar (c :: replaceEmoji fuel rest) := isScalar_cons.2 ⟨h.1, ih hrest⟩
      rw [replaceEmoji]
      split
      · simp only
        split
        · rename_i behind hdrop
          have hbehind := hrest.drop (rest.takeWhile fun d => d ≠ .char ':' && !isBlank d).length
          rw [hdrop, isScalar_cons] at hbehind
          exact isScalar_append.2
            ⟨isScalar_emojiText (hrest.subset (List.takeWhile_subset _)), ih hbehind.2⟩
        · exact hkept
      · exact hkept

theorem isScalar_printPlain (h : t.IsScalar) : (printPlain t).IsScalar :=
  isScalar_print (isScalar_replaceEmoji h)

/-! ## Markup -/

theorem subset_of_readTag? {t content rest : Text} (h : readTag? t = some (content, rest)) :
    content ⊆ t ∧ rest ⊆ t := by
  cases t with
  | nil => cases h
  | cons c t =>
    simp only [readTag?] at h
    split at h
    · split at h
      · rename_i hdrop
        cases h
        refine ⟨List.cons_subset_cons c (List.takeWhile_subset _), fun d hd => ?_⟩
        exact List.mem_cons_of_mem c
          (List.mem_of_mem_drop (hdrop ▸ List.mem_cons_of_mem (CodePoint.char ']') hd))
      · cases h
    · cases h

theorem subset_of_tag_mem_markupPieces {fuel : Nat} {plain t content : Text}
    (h : .tag content ∈ markupPieces plain fuel t) : content ⊆ t := by
  induction fuel generalizing plain t with
  | zero => simp [markupPieces] at h
  | succ fuel ih =>
    simp only [markupPieces] at h
    split at h
    · simp at h
    · rename_i c rest hdrop
      have hrest : c :: rest ⊆ t := hdrop ▸ List.drop_subset _ t
      split at h
      · exact fun d hd => hrest (List.mem_cons_of_mem c (ih h hd))
      · rename_i tag behind hread
        split at hread
        · obtain ⟨htag, hbehind⟩ := subset_of_readTag? hread
          simp only [List.mem_cons, reduceCtorEq, false_or] at h
          rcases h with h | h
          · split at h
            · cases h
            · cases h
              exact fun d hd => hrest (List.mem_cons_of_mem c (htag hd))
          · exact fun d hd => hrest (List.mem_cons_of_mem c (hbehind (ih h hd)))
        · cases hread

theorem unescapeBrackets_subset (t : Text) : unescapeBrackets t ⊆ t := by
  fun_induction unescapeBrackets t with
  | case1 => exact List.Subset.refl _
  | case2 t ih =>
    exact List.Subset.trans (List.cons_subset_cons _ ih) (List.subset_cons_self _ _)
  | case3 c t _ ih => exact List.cons_subset_cons c ih

theorem isScalar_plainText (h : t.IsScalar) : (plainText t).IsScalar :=
  isScalar_replaceEmoji (h.subset (unescapeBrackets_subset t))

theorem isScalar_of_plain_mem_markupPieces {fuel : Nat} {plain t u : Text} (hplain : plain.IsScalar)
    (ht : t.IsScalar) (h : .plain u ∈ markupPieces plain fuel t) : u.IsScalar := by
  induction fuel generalizing plain t with
  | zero =>
    cases List.mem_singleton.1 h
    exact isScalar_reverse.2 hplain
  | succ fuel ih =>
    simp only [markupPieces] at h
    have hslashes : IsScalar (t.takeWhile (· = .char '\\')) := ht.subset (List.takeWhile_subset _)
    have hbehind := ht.drop (t.takeWhile (· = .char '\\')).length
    split at h
    · cases List.mem_singleton.1 h
      exact isScalar_reverse.2 (isScalar_append.2 ⟨hslashes, hplain⟩)
    · rename_i c rest hdrop
      rw [hdrop, isScalar_cons] at hbehind
      split at h
      · exact ih (by simp [hbehind.1, hslashes, hplain]) hbehind.2 h
      · rename_i content behind hread
        split at hread
        · obtain ⟨htag, hrest⟩ := subset_of_readTag? hread
          simp only [List.mem_cons, MarkupPiece.plain.injEq] at h
          rcases h with rfl | rfl | h | h
          · exact isScalar_reverse.2 hplain
          · exact isScalar_replicate '\\' _
          · split at h
            · cases h
              simp [hbehind.2.subset htag]
            · cases h
          · exact ih isScalar_nil (hbehind.2.subset hrest) h
        · cases hread

theorem isScalar_of_renderPieces? {ps : List MarkupPiece} (h : ∀ u, .plain u ∈ ps → u.IsScalar)
    {opened : List Text} {t : Text} (ht : renderPieces? opened ps = some t) : t.IsScalar := by
  induction ps generalizing opened t with
  | nil =>
    cases ht
    exact isScalar_nil
  | cons p ps ih =>
    have hps : ∀ u, .plain u ∈ ps → u.IsScalar := fun u hu => h u (List.mem_cons_of_mem p hu)
    cases p with
    | plain u =>
      obtain ⟨rest, hrest, rfl⟩ := Option.map_eq_some_iff.1 ht
      exact isScalar_append.2 ⟨isScalar_plainText (h u List.mem_cons_self), ih hps hrest⟩
    | tag content =>
      rw [renderPieces?.eq_def] at ht
      simp only at ht
      split at ht
      · split at ht
        · exact ih hps ht
        · cases ht
      · exact ih hps ht

theorem isScalar_of_printMarkup? {u : Text} (h : t.IsScalar) (hu : printMarkup? t = some u) :
    u.IsScalar := by
  obtain ⟨rendered, hrendered, rfl⟩ := Option.map_eq_some_iff.1 hu
  exact isScalar_print (isScalar_of_renderPieces?
    (fun _ hplain => isScalar_of_plain_mem_markupPieces isScalar_nil h hplain) hrendered)

theorem exists_renderPieces? {ps : List MarkupPiece}
    (h : ∀ content : Text, .tag content ∈ ps → CodePoint.char '/' ∉ content) (opened : List Text) :
    ∃ t, renderPieces? opened ps = some t := by
  induction ps generalizing opened with
  | nil => exact ⟨[], rfl⟩
  | cons p ps ih =>
    have hps : ∀ content : Text, .tag content ∈ ps → CodePoint.char '/' ∉ content :=
      fun content hmem => h content (List.mem_cons_of_mem p hmem)
    cases p with
    | plain u =>
      obtain ⟨t, ht⟩ := ih hps opened
      exact ⟨plainText u ++ t, by rw [renderPieces?, ht]; rfl⟩
    | tag content =>
      have hcontent := h content List.mem_cons_self
      rw [renderPieces?]
      · exact ih hps _
      · rintro name rfl
        exact hcontent List.mem_cons_self

theorem exists_printMarkup?_of_not_mem (h : CodePoint.char '/' ∉ t) :
    ∃ u, printMarkup? t = some u := by
  obtain ⟨u, hu⟩ := exists_renderPieces?
    (fun _ htag hslash => h (subset_of_tag_mem_markupPieces htag hslash)) []
  exact ⟨print u, by rw [printMarkup?, hu]; rfl⟩

/-! ## Tables -/

theorem isScalar_padTo (h : t.IsScalar) : (padTo width t).IsScalar :=
  isScalar_append.2 ⟨h, isScalar_replicate ' ' _⟩

theorem isScalar_centre (h : t.IsScalar) : (centre ' ' width t).IsScalar :=
  isScalar_append.2 ⟨isScalar_append.2 ⟨isScalar_replicate ' ' _, h⟩, isScalar_replicate ' ' _⟩

theorem isScalar_rule {left fill cross right : Char} (columns : List Column) :
    (rule left fill cross right columns).IsScalar := by
  have hparts : ∀ t ∈ columns.map fun c => List.replicate (c.width + 2) (CodePoint.char fill),
      IsScalar t := by
    intro t ht
    obtain ⟨c, -, rfl⟩ := List.mem_map.1 ht
    exact isScalar_replicate fill _
  have hjoin : (join [.char cross] (columns.map fun c =>
      List.replicate (c.width + 2) (CodePoint.char fill))).IsScalar :=
    isScalar_join (by simp) hparts
  simp [rule, hjoin]

theorem isScalar_rowLine {bar : Char} {columns : List Column} {cellLines : List (List Text)}
    (h : ∀ lines ∈ cellLines, ∀ line ∈ lines, line.IsScalar) (n : Nat) :
    (rowLine bar columns n cellLines).IsScalar := by
  rw [rowLine]
  refine isScalar_append.2 ⟨isScalar_cons.2 ⟨CodePoint.isSurrogate_char _, ?_⟩, by simp⟩
  refine isScalar_join (by simp) fun t ht => ?_
  obtain ⟨p, hp, rfl⟩ := List.mem_map.1 ht
  have hcell : (p.2.getD n []).IsScalar := by
    rw [List.getD_eq_getElem?_getD]
    cases hfound : p.2[n]? with
    | none => exact isScalar_nil
    | some line => exact h p.2 (List.of_mem_zip hp).2 line (List.mem_of_getElem? hfound)
  exact isScalar_append.2
    ⟨isScalar_cons.2 ⟨CodePoint.isSurrogate_char _, isScalar_padTo hcell⟩, by simp⟩

theorem isScalar_of_mem_rowLines {bar : Char} {columns : List Column} {row : List Text}
    (h : ∀ t ∈ row, t.IsScalar) : ∀ line ∈ rowLines bar columns row, line.IsScalar := by
  intro line hline
  obtain ⟨n, -, rfl⟩ := List.mem_map.1 hline
  refine isScalar_rowLine (fun lines hlines => ?_) n
  obtain ⟨p, hp, rfl⟩ := List.mem_map.1 hlines
  exact isScalar_of_mem_wrap (h p.2 (List.of_mem_zip hp).2)

theorem isScalar_table {title : Option Text} {columns : List Column} {rows : List (List Text)}
    (htitle : ∀ t ∈ title, t.IsScalar) (hcolumns : ∀ c ∈ columns, c.heading.IsScalar)
    (hrows : ∀ row ∈ rows, ∀ t ∈ row, t.IsScalar) : (table title columns rows).IsScalar := by
  have hheadings : ∀ t ∈ columns.map (·.heading), t.IsScalar :=
    List.forall_mem_map.2 hcolumns
  refine isScalar_flatMap fun line hline => isScalar_append.2 ⟨?_, by decide⟩
  simp only [List.mem_append, Option.mem_toList, Option.map_eq_some_iff, List.mem_singleton,
    List.mem_flatMap] at hline
  rcases hline with ((((⟨t, ht, rfl⟩ | rfl) | hline) | rfl) | ⟨row, hrow, hline⟩) | rfl
  · exact isScalar_centre (htitle t ht)
  · exact isScalar_rule columns
  · exact isScalar_of_mem_rowLines hheadings line hline
  · exact isScalar_rule columns
  · exact isScalar_of_mem_rowLines (hrows row hrow) line hline
  · exact isScalar_rule columns

end Console

end BraceTemplate
