import BraceTemplate.Proofs.Strays
import BraceTemplate.Proofs.Tokenization

/-!
# BraceTemplate.Proofs.Cutting

A template may be cut between any two of its tokens: both parts are scanned into the tokens that
they had (`scan_cut`). What stands before the cut keeps its tokens because a brace that opens
nothing opens nothing in a shorter text either, and a body is read in the same way whatever follows
its closing brace. What stands behind the cut keeps its tokens because a replacement takes
backslashes only from the text behind the last token.
-/

namespace BraceTemplate

open Token (sources)

namespace Lexed

theorem of_append {before : Text} {ts us : List Token} (h : Lexed before (ts ++ us)) :
    Lexed before ts := by
  induction ts generalizing before with
  | nil => exact .nil
  | cons t ts ih =>
    cases h with
    | @literal text _ hne hs hl =>
      have hsources : Strays text (sources ts ++ sources us) := by rwa [← Token.sources_append]
      exact .literal hne (hsources.of_quoted (.refl _ _)) (ih hl)
    | blockOpen hl => exact .blockOpen (ih hl)
    | blockClose hl => exact .blockClose (ih hl)
    | replacement hp hleft hl =>
      exact .replacement (Body.compile_eq_some_iff_parse.1 (Body.compile_raw_of_parse hp)) hleft
        (ih hl)

/-- Without the literal text before it, a replacement is left no backslash either. -/
theorem alone {before : Text} {ts : List Token} (h : Lexed before ts) : Lexed [] ts := by
  cases h with
  | nil => exact .nil
  | literal hne hs hl => exact .literal hne hs hl
  | blockOpen hl => exact .blockOpen hl
  | blockClose hl => exact .blockClose hl
  | replacement hp _ hl => exact .replacement hp (by simp) hl

end Lexed

/-- Cutting a template between two of its tokens cuts its tokens there. -/
theorem scan_cut {template : Text} (h : (scan template).fault = none) {before after : List Token}
    (htokens : (scan template).tokens = before ++ after) :
    let cut := (sources before).length
    scan (template.take cut) = ⟨before, none⟩ ∧ scan (template.drop cut) = ⟨after, none⟩ := by
  intro cut
  have hscan : scan template = ⟨before ++ after, none⟩ := by rw [← htokens, ← h]
  obtain ⟨hlexed, hsources⟩ := scan_eq_iff.1 hscan
  rw [Token.sources_append] at hsources
  have htake : template.take cut = sources before := by rw [← hsources, List.take_left]
  have hdrop : template.drop cut = sources after := by rw [← hsources, List.drop_left]
  rw [htake, hdrop]
  exact ⟨scan_eq_iff.2 ⟨hlexed.of_append, rfl⟩, scan_eq_iff.2 ⟨hlexed.trailing.alone, rfl⟩⟩

/-- The stray brace could be read past the cut, which is inside of its pattern; behind the cut a
replacement takes two of the three backslashes. -/
theorem scan_cut_in_pattern :
    let template := "\x7b[/a\x7b\x7d/\\\\\\\x7b1\x7d".toText
    let plain : Body := ⟨[], .next, []⟩
    let before := [.literal "\x7b[/a".toText, .replacement .plain plain]
    let after := [.literal "/\\".toText, .replacement .backslashed ⟨['1'], .position 1, []⟩]
    (scan template).tokens = before ++ after ∧
      scan (template.take 6) = ⟨before, none⟩ ∧ scan (template.drop 6) = ⟨after, none⟩ := by
  intro template plain before after
  have htokens : (scan template).tokens = before ++ after := by decide +kernel
  exact ⟨htokens, scan_cut (by decide +kernel) htokens⟩

end BraceTemplate
