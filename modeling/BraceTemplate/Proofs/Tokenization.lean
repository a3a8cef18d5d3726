import BraceTemplate.Proofs.Placement
import Mathlib.Data.List.DropRight

/-!
# BraceTemplate.Proofs.Tokenization

Scanning is lossless, and each character of a template is in the token that it belongs to.
`Tokenizes` says it with offsets in the template; it follows from the relation of tokens
(`tokenizes_scan`). The induction on the tokens before one of them is from the right, because the
literal text right before it is what the relation carries (`Lexed.trailing`).
-/

namespace BraceTemplate

open Token (sources)

/-- The offset where the text right before a token begins: the end of the last earlier token that
is no literal text. -/
def textStart (before : List Token) : Nat := (sources (before.rdropWhile Token.isLiteral)).length

/-- Backslashes right before an offset, down to an earlier one. -/
def backslashes (start stop : Nat) (t : Text) : Nat :=
  ((Text.slice start stop t).rtakeWhile (· = .char '\\')).length

/-- Tokens that are those of a template. -/
structure Tokenizes (template : Text) (ts : List Token) : Prop where
  sources_eq : sources ts = template
  literal_ne_nil : ∀ text, .literal text ∈ ts → text ≠ []
  apart : ts.IsChain fun t u => ¬ (t.isLiteral = true ∧ u.isLiteral = true)
  /-- A brace in a literal text begins no marker and no replacement. -/
  stray : ∀ before text after i, ts = before ++ .literal text :: after →
    text[i]? = some (.char '\x7b') →
    let brace := (sources before).length + i
    ¬ Token.blockOpen.source <+: template.drop brace ∧
      ¬ Token.blockClose.source <+: template.drop brace ∧
      Body.parseAt template (brace + 1) = .ok none
  /-- A replacement takes the backslashes before its brace, two of them if there are more. The
  others end the literal text before it. -/
  escape : ∀ before e b after, ts = before ++ .replacement e b :: after →
    let brace := (sources before).length + e.count
    let n := backslashes (textStart before) brace template
    template[brace]? = some (.char '\x7b') ∧ e.count = min 2 n ∧
      ((sources (before.rtakeWhile Token.isLiteral)).rtakeWhile (· = .char '\\')).length =
        n - e.count

namespace Lexed

theorem of_literal {before text : Text} {ts : List Token}
    (h : Lexed before (.literal text :: ts)) :
    before = [] ∧ text ≠ [] ∧ Strays text (sources ts) ∧ Lexed text ts := by
  cases h with
  | literal hne hs hl => exact ⟨rfl, hne, hs, hl⟩

theorem of_not_isLiteral {before : Text} {t : Token} {ts : List Token}
    (h : Lexed before (t :: ts)) (ht : t.isLiteral = false) : Lexed [] ts := by
  cases h with
  | literal => cases ht
  | blockOpen hl => exact hl
  | blockClose hl => exact hl
  | replacement _ _ hl => exact hl

theorem rtakeWhile_eq_nil {before : Text} {e : Escape} {b : Body} {ts : List Token}
    (h : Lexed before (.replacement e b :: ts)) (he : e.count < 2) :
    before.rtakeWhile (· = .char '\\') = [] := by
  cases h with
  | replacement _ hleft _ =>
    refine List.rtakeWhile_eq_nil_iff.2 fun hne hlast => hleft he ?_
    rw [List.getLast?_eq_some_getLast hne]
    simpa using hlast

theorem literal_ne_nil {before : Text} {ts : List Token} (h : Lexed before ts) :
    ∀ text, .literal text ∈ ts → text ≠ [] := by
  induction h with
  | nil => simp
  | literal hne _ _ ih =>
    intro text ht
    rcases List.mem_cons.1 ht with ht | ht
    · cases ht
      exact hne
    · exact ih text ht
  | blockOpen _ ih => simpa using ih
  | blockClose _ ih => simpa using ih
  | replacement _ _ _ ih => simpa using ih

/-- Behind a literal text comes no other one. -/
theorem isLiteral_head {before : Text} {ts : List Token} (h : Lexed before ts)
    (hne : before ≠ []) : ∀ t ∈ ts.head?, t.isLiteral = false := by
  rintro t ht
  cases h with
  | nil => cases ht
  | literal => exact absurd rfl hne
  | blockOpen =>
    cases ht
    rfl
  | blockClose =>
    cases ht
    rfl
  | replacement =>
    cases ht
    rfl

theorem apart {before : Text} {ts : List Token} (h : Lexed before ts) :
    ts.IsChain fun t u => ¬ (t.isLiteral = true ∧ u.isLiteral = true) := by
  induction h with
  | nil => exact .nil
  | literal hne _ hl ih =>
    refine List.isChain_cons.2 ⟨?_, ih⟩
    rintro t ht ⟨-, hlit⟩
    rw [isLiteral_head hl hne t ht] at hlit
    cases hlit
  | blockOpen _ ih => exact List.isChain_cons.2 ⟨by simp [Token.isLiteral], ih⟩
  | blockClose _ ih => exact List.isChain_cons.2 ⟨by simp [Token.isLiteral], ih⟩
  | replacement _ _ _ ih => exact List.isChain_cons.2 ⟨by simp [Token.isLiteral], ih⟩

/-- The tokens behind the first ones, with the literal text that ends those. -/
theorem trailing {before ts : List Token} (h : Lexed [] (before ++ ts)) :
    Lexed (sources (before.rtakeWhile Token.isLiteral)) ts := by
  induction before using List.reverseRecOn generalizing ts with
  | nil => exact h
  | append_singleton before t ih =>
    rw [List.append_assoc, List.singleton_append] at h
    have hl := ih h
    cases ht : t.isLiteral with
    | true =>
      rw [List.rtakeWhile_concat_pos _ _ _ ht, Token.sources_append]
      cases t with
      | literal text =>
        obtain ⟨hnil, _, _, hl⟩ := of_literal hl
        rw [hnil]
        simpa [Token.source] using hl
      | blockOpen => cases ht
      | blockClose => cases ht
      | replacement e b => cases ht
    | false =>
      rw [List.rtakeWhile_concat_neg _ _ _ (by simp [ht])]
      exact of_not_isLiteral hl ht

/-- A brace in a literal text, found in the text of all tokens. -/
theorem stray {before after : List Token} {text : Text} {i : Nat}
    (h : Lexed [] (before ++ .literal text :: after)) (hi : text[i]? = some (.char '\x7b')) :
    ∃ rest, (sources (before ++ .literal text :: after)).drop ((sources before).length + i) =
      .char '\x7b' :: rest ∧ IsStray rest := by
  obtain ⟨_, _, hs, _⟩ := of_literal (trailing h)
  obtain ⟨hlt, hget⟩ := List.getElem?_eq_some_iff.1 hi
  have hdrop : text.drop i = .char '\x7b' :: text.drop (i + 1) := by
    rw [List.drop_eq_getElem_cons hlt, hget]
  rw [← List.take_append_drop i text, hdrop, strays_append] at hs
  refine ⟨text.drop (i + 1) ++ sources after, ?_, hs.2.1 rfl⟩
  rw [Token.sources_append, Token.sources_cons, Token.source, List.drop_length_add_append,
    List.drop_append_of_le_length hlt.le, hdrop, List.cons_append]

end Lexed

theorem slice_length_append (t u v : Text) :
    Text.slice t.length (t ++ u).length (t ++ (u ++ v)) = u := by
  simp [Text.slice]

theorem rtakeWhile_append_replicate (t : Text) (k : Nat) :
    (t ++ List.replicate k (CodePoint.char '\\')).rtakeWhile (· = .char '\\') =
      t.rtakeWhile (· = .char '\\') ++ List.replicate k (.char '\\') := by
  rw [List.rtakeWhile, List.reverse_append, List.reverse_replicate,
    List.takeWhile_append_of_pos (by simp), List.reverse_append, List.reverse_replicate]
  rfl

/-- The run of backslashes before a replacement's brace: those that end the literal text and those
that the replacement takes. -/
theorem backslashes_textStart (before : List Token) (k : Nat) (t : Text) :
    backslashes (textStart before) ((sources before).length + k)
      (sources before ++ (List.replicate k (.char '\\') ++ t)) =
      ((sources (before.rtakeWhile Token.isLiteral)).rtakeWhile (· = .char '\\')).length + k := by
  have hbefore : sources before = sources (before.rdropWhile Token.isLiteral) ++
      sources (before.rtakeWhile Token.isLiteral) := by
    rw [← Token.sources_append, List.rdropWhile_append_rtakeWhile]
  have hslice := slice_length_append (sources (before.rdropWhile Token.isLiteral))
    (sources (before.rtakeWhile Token.isLiteral) ++ List.replicate k (.char '\\')) t
  rw [← List.append_assoc, ← hbefore, List.length_append, List.length_replicate,
    List.append_assoc, ← List.append_assoc, ← hbefore] at hslice
  rw [backslashes, textStart, hslice, rtakeWhile_append_replicate, List.length_append,
    List.length_replicate]

theorem tokenizes_of_lexed {ts : List Token} (h : Lexed [] ts) : Tokenizes (sources ts) ts where
  sources_eq := rfl
  literal_ne_nil := h.literal_ne_nil
  apart := h.apart
  stray := by
    rintro before text after i rfl hi
    obtain ⟨rest, hdrop, hstray⟩ := h.stray hi
    intro brace
    have hnext : (sources (before ++ .literal text :: after)).drop (brace + 1) = rest := by
      rw [← List.drop_drop, hdrop, List.drop_one, List.tail_cons]
    rw [hdrop, Body.parseAt_eq_none_iff, hnext]
    exact ⟨hstray.not_open, hstray.not_close, hstray.parse_eq⟩
  escape := by
    rintro before e b after rfl
    have hsource : sources (before ++ .replacement e b :: after) = sources before ++
        (List.replicate e.count (.char '\\') ++
          .char '\x7b' :: (b.raw ++ .char '\x7d' :: sources after)) := by
      simp [Token.source]
    intro brace n
    have hn : n =
        ((sources (before.rtakeWhile Token.isLiteral)).rtakeWhile (· = .char '\\')).length +
        e.count := by
      rw [← backslashes_textStart, ← hsource]
    have hnone := h.trailing.rtakeWhile_eq_nil
    have hcount : e.count ≤ 2 := by cases e <;> decide
    refine ⟨?_, ?_, by omega⟩
    · rw [hsource, List.getElem?_append_right (by omega)]
      simp [brace]
    · by_cases hlt : e.count < 2
      · rw [hnone hlt, List.length_nil] at hn
        omega
      · omega

/-- A template that is scanned without a fault is scanned into its tokens. -/
theorem tokenizes_scan {template : Text} (h : (scan template).fault = none) :
    Tokenizes template (scan template).tokens := by
  have hscan : scan template = ⟨(scan template).tokens, none⟩ := by rw [← h]
  obtain ⟨hl, hsource⟩ := scan_eq_iff.1 hscan
  have := tokenizes_of_lexed hl
  rwa [hsource] at this

/-- Three backslashes before a replacement, and a brace in the literal text that they end. -/
theorem tokenizes_backslashes :
    Tokenizes "\x7b?\x7da\x7b\\\\\\\x7b1\x7d\\\x7b\x7d".toText
      (scan "\x7b?\x7da\x7b\\\\\\\x7b1\x7d\\\x7b\x7d".toText).tokens :=
  tokenizes_scan (by decide +kernel)

end BraceTemplate
