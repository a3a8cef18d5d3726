import BraceTemplate.Proofs.WrittenOperand

/-!
# BraceTemplate.Proofs.DateFormat

Writing a date format. With a backslash before each closing parenthesis and each backslash, any text
stands between the parentheses of a date (`isEscaped_escape`), and it is what is left when the
backslashes are taken away again (`unescape_escape`). So any format can be written that is not empty
and does not point into the parameters (`compile_escaped_format`).
-/

namespace BraceTemplate

namespace Directive

/-- A closing parenthesis or a backslash with a backslash before it. -/
def escapeChar (c : CodePoint) : Text := if c = ')' ∨ c = '\\' then ['\\', c] else [c]

def escape (t : Text) : Text := t.flatMap escapeChar

theorem escape_cons_of_special {c : CodePoint} (hc : c = ')' ∨ c = '\\') (t : Text) :
    escape (c :: t) = .char '\\' :: c :: escape t := by
  rw [escape, List.flatMap_cons, escapeChar, if_pos hc]
  rfl

theorem escape_cons_of_plain {c : CodePoint} (hc : ¬ (c = ')' ∨ c = '\\')) (t : Text) :
    escape (c :: t) = c :: escape t := by
  rw [escape, List.flatMap_cons, escapeChar, if_neg hc]
  rfl

theorem ne_newline_of_special {c : CodePoint} (hc : c = ')' ∨ c = '\\') : c ≠ '\n' := by
  rcases hc with rfl | rfl
  · decide
  · decide

theorem isEscaped_escape (t : Text) : IsEscaped ')' (escape t) := by
  induction t with
  | nil => exact .nil
  | cons c t ih =>
    by_cases hc : c = ')' ∨ c = '\\'
    · rw [escape_cons_of_special hc]
      exact .pair (ne_newline_of_special hc) ih
    · rw [escape_cons_of_plain hc]
      exact .plain (fun h => hc (.inl h)) (fun h => hc (.inr h)) ih

theorem unescape_escape (t : Text) : unescape (escape t) = t := by
  induction t with
  | nil => rfl
  | cons c t ih =>
    by_cases hc : c = ')' ∨ c = '\\'
    · rw [escape_cons_of_special hc, unescape, if_pos ⟨rfl, ne_newline_of_special hc⟩, ih]
    · rw [escape_cons_of_plain hc, unescape_cons fun h => hc (.inr h), ih]

theorem escape_ne_nil {t : Text} (h : t ≠ []) : escape t ≠ [] := by
  intro hnil
  apply h
  rw [← unescape_escape t, hnil]
  rfl

theorem spells_self (isClock : Bool) :
    Spells (dateWord isClock).toText (dateWord isClock).toText := by
  cases isClock with
  | false => simp [Spells, dateWord, Text.isLetterAnyCase]
  | true => simp [Spells, dateWord, Text.isLetterAnyCase]

theorem compile_date_escape {format : Text} (hne : format ≠ [])
    (hpointer : ¬ Reference.IsPointer format) (isClock : Bool) (word : Text) :
    (date isClock word (some (escape format, none))).compile =
      .ok ⟨if isClock then some .clock else none,
        some (.date (.literal (some format)) (.literal none))⟩ := by
  have hwritten : dateOperator (some (escape format)) none =
      .ok (.date (.literal (some format)) (.literal none)) := by
    obtain ⟨c, t, ht⟩ := List.exists_cons_of_ne_nil (escape_ne_nil hne)
    simp only [dateOperator, ht]
    rw [← ht, unescape_escape, Reference.parse_of_not_isPointer hpointer]
  simp only [compile, Option.map_some, Option.bind_some, hwritten]

end Directive

namespace Body

open Directive

/-- Every format that is not empty and does not point into the parameters can be written: with its
parentheses and backslashes escaped it is the body's only operand, behind the keyword of a date or
of the current time. -/
theorem compile_escaped_format {format : Text} (hne : format ≠ [])
    (hpointer : ¬ Reference.IsPointer format) (isClock : Bool) :
    let raw := (dateWord isClock).toText ++ .char '(' :: (escape format ++ [.char ')'])
    compile raw = .ok (some ⟨raw, if isClock then .clock else .next,
      [.date (.literal (some format)) (.literal none)]⟩) := by
  intro raw
  have hread : Decomposes raw
      [(date isClock (dateWord isClock).toText (some (escape format, none)), false)] := by
    refine ⟨List.forall_mem_singleton.2 ?_, .singleton _, ?_⟩
    · exact .format (spells_self isClock) (isEscaped_escape format)
    · simp [source, Directive.source, raw]
  refine compile_eq_some_iff.2 ⟨_, _, hread,
    compileAll_cons_eq_ok_iff.2 ⟨_, [], compile_date_escape hne hpointer isClock _, rfl, rfl⟩, ?_⟩
  cases isClock with
  | false => rfl
  | true => rfl

/-- Braces, a parenthesis, a line feed behind a backslash and a backslash at the end. -/
theorem compile_escaped_format_marks :
    let format := "\x7b1)\\\n\x7d\\".toText
    format ≠ [] ∧ ¬ Reference.IsPointer format ∧
      escape format = "\x7b1\\)\\\\\n\x7d\\\\".toText ∧
      compile "now(\x7b1\\)\\\\\n\x7d\\\\)".toText =
        .ok (some ⟨"now(\x7b1\\)\\\\\n\x7d\\\\)".toText,
        .clock, [.date (.literal (some format)) (.literal none)]⟩) := by
  intro format
  have hnone : Reference.indirectDigits? format = none := by decide
  have hpointer := Reference.indirectDigits?_eq_none_iff.1 hnone
  exact ⟨by decide, hpointer, by decide, compile_escaped_format (by decide) hpointer true⟩

end Body

end BraceTemplate
