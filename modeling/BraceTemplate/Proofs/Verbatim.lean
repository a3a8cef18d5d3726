import BraceTemplate.Proofs.Placement
import BraceTemplate.Proofs.Segments
import BraceTemplate.Proofs.Strays

/-!
# BraceTemplate.Proofs.Verbatim

Quoting a template. With a backslash before each of its replacements a template has the same
literal texts and the same bodies, and it expands to the template without the backslashes, whatever
the parameters are; none of them is taken (`expand_quotedSources`).
-/

namespace BraceTemplate

open Token (sources)

namespace Token

/-- Literal text, or a replacement without a backslash. -/
inductive IsPlain : Token → Prop where
  | literal {text : Text} : IsPlain (.literal text)
  | replacement {body : Body} : IsPlain (.replacement .plain body)

/-- The token with one backslash before a replacement. -/
def toVerbatim : Token → Token
  | replacement _ body => replacement .verbatim body
  | t => t

/-- Tokens as they are written, with one more backslash before each replacement. -/
def quotedSources (ts : List Token) : Text :=
  ts.flatMap fun t => if t.isLiteral then t.source else '\\' :: t.source

theorem sources_map_toVerbatim {ts : List Token} (h : ∀ t ∈ ts, t.IsPlain) :
    sources (ts.map toVerbatim) = quotedSources ts := by
  rw [sources, quotedSources, List.flatMap_map]
  refine List.flatMap_congr fun t ht => ?_
  cases h t ht with
  | literal => rfl
  | replacement => rfl

theorem output_toVerbatim [Packages] {t : Token} (h : t.IsPlain) (ctx : Context)
    (clock : Calendar.Moment) :
    t.toVerbatim.output ctx clock = pure ⟨t.source, !t.isLiteral⟩ := by
  cases h with
  | literal => rfl
  | replacement => simp [toVerbatim, output, replace, source, isLiteral, Escape.count]

theorem isMarker_toVerbatim {t : Token} (h : t.IsPlain) : t.toVerbatim.isMarker = false := by
  cases h with
  | literal => rfl
  | replacement => rfl

/-- Verbatim tokens give the text of the tokens, and the cursor stays where it is. -/
theorem runAll_map_toVerbatim [Packages] {ts : List Token} (h : ∀ t ∈ ts, t.IsPlain)
    (ctx : Context) (clock : Calendar.Moment) :
    ∃ block, runAll ctx clock (ts.map toVerbatim) .start = pure block ∧
      block.finished.buffer.text = sources ts := by
  have houtputs : (ts.map toVerbatim).mapM (output ctx clock) =
      pure (ts.map fun t => ⟨t.source, !t.isLiteral⟩) := by
    induction ts with
    | nil => rfl
    | cons t ts ih =>
      rw [List.map_cons, List.mapM_cons, output_toVerbatim (h t List.mem_cons_self),
        ih fun u hu => h u (List.mem_cons_of_mem t hu)]
      rfl
  have hmarker : ∀ t ∈ ts.map toVerbatim, t.isMarker = false := by
    intro t ht
    obtain ⟨u, hu, rfl⟩ := List.mem_map.1 ht
    exact isMarker_toVerbatim (h u hu)
  refine ⟨_, by rw [runAll_of_not_isMarker hmarker, houtputs, map_pure], ?_⟩
  have htext := Block.text_settle_foldl_add Block.begins_start ts
    (ts.map fun t => ⟨t.source, !t.isLiteral⟩)
  simpa [Block.finished, Segment.kept, Block.start, Buffer.empty, Buffer.text, List.flatMap_map,
    sources] using htext

end Token

namespace Lexed

variable {before : Text} {ts : List Token}

/-- Each backslash stands behind a text that does not end with one, since there the replacement
would have taken it. -/
theorem quoted_sources (h : Lexed before ts) (hplain : ∀ t ∈ ts, t.IsPlain) :
    Quoted (before.getLast? = some (.char '\\')) (sources ts)
      (sources (ts.map Token.toVerbatim)) := by
  induction h with
  | nil => exact .nil
  | @literal text ts hne _ _ ih =>
    obtain ⟨c, text, rfl⟩ := List.exists_cons_of_ne_nil hne
    exact .char (.append_literal (ih fun t ht => hplain t (List.mem_cons_of_mem _ ht)))
  | blockOpen => cases hplain _ List.mem_cons_self
  | blockClose => cases hplain _ List.mem_cons_self
  | @replacement before escape body ts _ hleft _ ih =>
    have htail := ih fun t ht => hplain t (List.mem_cons_of_mem _ ht)
    cases hplain _ List.mem_cons_self with
    | replacement =>
      have hlast : (.char '\x7b' :: (body.raw ++ [.char '\x7d'])).getLast? =
          some (.char '\x7d') := by
        rw [← List.cons_append, List.getLast?_concat]
      have hbody : Quoted false ((body.raw ++ [.char '\x7d']) ++ sources ts)
          ((body.raw ++ [.char '\x7d']) ++ sources (ts.map Token.toVerbatim)) :=
        .append_literal (c := '\x7b') (by simpa [hlast] using htail)
      have hbrace := Quoted.brace (decide_eq_false (hleft (by decide))) hbody
      simpa [Token.source, Token.toVerbatim, Escape.count] using hbrace

theorem map_toVerbatim (h : Lexed before ts) (hplain : ∀ t ∈ ts, t.IsPlain) :
    Lexed before (ts.map Token.toVerbatim) := by
  induction h with
  | nil => exact .nil
  | @literal text ts hne hs hl ih =>
    have htail := fun t ht => hplain t (List.mem_cons_of_mem _ ht)
    rw [← List.append_nil (sources ts)] at hs
    exact .literal hne (hs.of_quoted (hl.quoted_sources htail)) (ih htail)
  | blockOpen => cases hplain _ List.mem_cons_self
  | blockClose => cases hplain _ List.mem_cons_self
  | replacement hp hleft _ ih =>
    have htail := fun t ht => hplain t (List.mem_cons_of_mem _ ht)
    cases hplain _ List.mem_cons_self with
    | replacement =>
      exact .replacement (Body.compile_eq_some_iff_parse.1 (Body.compile_raw_of_parse hp))
        (fun _ => hleft (by decide)) (ih htail)

end Lexed

/-- A template of literal texts and plain replacements, with a backslash before each replacement:
it has the same literal texts and bodies, and expands to the template, taking no parameter. -/
theorem expand_quotedSources [Packages] {template : Text} (h : (scan template).fault = none)
    (hplain : ∀ t ∈ (scan template).tokens, t.IsPlain) :
    let quoted := Token.quotedSources (scan template).tokens
    scan quoted = ⟨(scan template).tokens.map Token.toVerbatim, none⟩ ∧
      ∀ settings clock parameters,
        expand settings clock quoted parameters = .ok template ∧
          ∃ block, (Token.runAll (settings.context parameters) clock (scan quoted).tokens
            .start).run 0 = .ok block 0 := by
  intro quoted
  obtain ⟨hlexed, hsources⟩ := scan_eq_iff.1 (by rw [← h] : scan template = ⟨_, none⟩)
  have hscan : scan quoted = ⟨(scan template).tokens.map Token.toVerbatim, none⟩ :=
    scan_eq_iff.2 ⟨hlexed.map_toVerbatim hplain, Token.sources_map_toVerbatim hplain⟩
  refine ⟨hscan, fun settings clock parameters => ?_⟩
  obtain ⟨block, hrun, htext⟩ :=
    Token.runAll_map_toVerbatim hplain (settings.context parameters) clock
  rw [expand_eq_outcome (by rw [hscan]), hscan, hrun]
  refine ⟨?_, block, rfl⟩
  rw [map_pure, htext, hsources]
  rfl

/-- A stray brace before which nothing is quoted, with a pattern that holds a quoted brace. -/
theorem expand_quotedSources_in_pattern :
    let template := "\x7b[/a\x7b\x7d/]x\x7b1\x7d".toText
    let quoted := "\x7b[/a\\\x7b\x7d/]x\\\x7b1\x7d".toText
    Token.quotedSources (scan template).tokens = quoted ∧
      (scan quoted).tokens = [.literal "\x7b[/a".toText,
        .replacement .verbatim ⟨[], .next, []⟩, .literal "/]x".toText,
        .replacement .verbatim ⟨['1'], .position 1, []⟩] ∧
      expand {} ⟨0, some 0⟩ quoted [.text ['y']] = .ok template := by
  intro template quoted
  have htokens : (scan template).tokens = [.literal "\x7b[/a".toText,
      .replacement .plain ⟨[], .next, []⟩, .literal "/]x".toText,
      .replacement .plain ⟨['1'], .position 1, []⟩] := by decide +kernel
  have hquoted : Token.quotedSources (scan template).tokens = quoted := by
    rw [htokens]
    rfl
  have hplain : ∀ t ∈ (scan template).tokens, t.IsPlain := by
    rw [htokens]
    simp only [List.forall_mem_cons]
    exact ⟨.literal, .replacement, .literal, .replacement, by simp⟩
  obtain ⟨hscan, hexpand⟩ := expand_quotedSources (by decide +kernel) hplain
  rw [hquoted] at hscan hexpand
  refine ⟨hquoted, ?_, (hexpand {} ⟨0, some 0⟩ [.text ['y']]).1⟩
  rw [hscan, htokens]
  rfl

end BraceTemplate
