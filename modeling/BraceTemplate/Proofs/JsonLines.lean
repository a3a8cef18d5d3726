import BraceTemplate.CommandLine.Run
import BraceTemplate.Proofs.JsonReading

/-!
# BraceTemplate.Proofs.JsonLines

The outputs of a batch as lines of JSON. What is written for an output has no line feed in it and is
read back as the object with its number and itself, its pairs of surrogates joined
(`read_lineText`); so the lines of the whole text are one for each output, in order
(`lists_join_linesFrom`). Writing them fails only for numbers that are too long to be written
(`outputLines_eq`).
-/

namespace BraceTemplate

/-- The lines of a text; an empty text has none. -/
def Text.lines (t : Text) : List Text := if t = [] then [] else List.splitOn (.char '\n') t

theorem Text.join_eq_intercalate (sep : Text) (ts : List Text) :
    Text.join sep ts = List.intercalate sep ts := by
  induction ts with
  | nil => rfl
  | cons t ts ih =>
    cases ts with
    | nil => simp [Text.join]
    | cons u us => rw [Text.join, ih, List.intercalate_cons_cons]; simp

theorem Text.lines_join {ts : List Text} (hne : ∀ t ∈ ts, t ≠ [])
    (hline : ∀ t ∈ ts, .char '\n' ∉ t) : (Text.join ['\n'] ts).lines = ts := by
  cases ts with
  | nil => rfl
  | cons t ts =>
    have hjoin : Text.join ['\n'] (t :: ts) ≠ [] := by
      intro hempty
      have ht := hne t List.mem_cons_self
      cases ts with
      | nil => exact ht hempty
      | cons u us => exact ht (List.append_eq_nil_iff.1 (List.append_eq_nil_iff.1 hempty).1).1
    rw [lines, if_neg hjoin, join_eq_intercalate]
    exact List.splitOn_intercalate (.char '\n') hline (List.cons_ne_nil t ts)

namespace CommandLine

/-! ## One line -/

/-- The object that a line stands for. -/
def lineValue (n : Nat) (output : Option Text) : Value :=
  .dict [named "id" (.int n), named "output" (valueOfOutput output)]

theorem lineValue_injective {n : Nat} {output output' : Option Text}
    (h : lineValue n output = lineValue n output') : output = output' := by
  cases output with
  | none =>
    cases output' with
    | none => rfl
    | some t => cases h
  | some t =>
    cases output' with
    | none => cases h
    | some u =>
      cases h
      rfl

def outputText : Option Text → Text
  | some t => Json.stringText true t
  | none => "null".toText

def lineText (n : Nat) (output : Option Text) : Text :=
  .char '\x7b' :: (Json.stringText true "id".toText ++ .char ':' :: .char ' ' ::
    (Number.natText n ++ .char ',' :: .char ' ' ::
      (Json.stringText true "output".toText ++ .char ':' :: .char ' ' ::
        (outputText output ++ [.char '\x7d']))))

theorem outputLine_eq (n : Nat) (output : Option Text) :
    outputLine n output =
      if n < 10 ^ Number.maxDigits then .ok (lineText n output) else .error .tooManyDigits := by
  have hvalue : Json.textAt .compact 1 (valueOfOutput output) = .ok (outputText output) := by
    cases output with
    | none => rfl
    | some t => rfl
  simp only [outputLine, named, Json.write, Json.textAt, Json.memberTexts, Json.nameOf,
    Number.decimalText_natCast, Nat.zero_add, hvalue]
  by_cases hn : n < 10 ^ Number.maxDigits
  · rw [if_pos hn, if_pos hn]
    simp [lineText, Json.enclose, Text.join, Json.Layout.compact, Json.Layout.newLine,
      Json.Layout.separator]
  · rw [if_neg hn, if_neg hn]

theorem newline_not_mem_lineText (n : Nat) (output : Option Text) :
    .char '\n' ∉ lineText n output := by
  have hnumber : .char '\n' ∉ Number.natText n := fun h => by
    cases Number.isAsciiDigit_of_mem_natText h
  have houtput : .char '\n' ∉ outputText output := by
    cases output with
    | none => decide
    | some t => exact Json.newline_not_mem_stringText t
  simp [lineText, Json.newline_not_mem_stringText, hnumber, houtput]

theorem isScalar_lineText (n : Nat) (output : Option Text) : (lineText n output).IsScalar := by
  have houtput : (outputText output).IsScalar := by
    cases output with
    | none => exact Text.isScalar_ofChars _
    | some t => exact Json.isScalar_stringText t
  simp [lineText, Json.isScalar_stringText, houtput]

theorem readValue_outputText (fuel : Nat) (output : Option Text) (rest : Text) :
    Json.readValue (fuel + 1) (outputText output ++ rest) =
      .ok (valueOfOutput (output.map Codec.Utf16.joinPairs), rest) := by
  cases output with
  | none => exact Json.readValue_null fuel rest
  | some t => exact Json.readValue_stringText fuel t rest

theorem beginsWord_outputText (output : Option Text) (rest : Text) :
    Json.BeginsWord (outputText output ++ rest) := by
  cases output with
  | none => exact ⟨'n', _, rfl, by decide⟩
  | some t => exact Json.beginsWord_stringText t rest

/-- A line is read as its object. -/
theorem read_lineText {n : Nat} (hn : n < 10 ^ Number.maxDigits) (output : Option Text) :
    Json.read (lineText n output) =
      .ok (lineValue n (output.map Codec.Utf16.joinPairs)) := by
  obtain ⟨fuel, hfuel⟩ : ∃ fuel, (lineText n output).length + 1 = fuel + 4 :=
    Nat.exists_eq_add_of_le' (by simp [lineText]; omega)
  have hlast := Json.readMembers_of_brace "output".toText [named "id" (.int n)]
    (beginsWord_outputText output [.char '\x7d']) (readValue_outputText fuel output [.char '\x7d'])
  have hmembers := (Json.readMembers_of_comma "id".toText [] (Json.beginsWord_natText n _)
    (Json.beginsWord_stringText _ _) (Json.readValue_natText hn (fuel + 1) _)).trans hlast
  have hspaces : Json.dropSpaces (lineText n output) = lineText n output := rfl
  rw [Json.read, hfuel, hspaces, lineText, Json.readValue_of_members hmembers]
  rfl

theorem map_joinPairs_eq_self_iff {output : Option Text} :
    output.map Codec.Utf16.joinPairs = output ↔ ∀ t ∈ output, ¬ Codec.Utf16.HasPair t := by
  cases output with
  | none => simp
  | some t => simp [Codec.Utf16.joinPairs_eq_self_iff]

/-! ## All lines -/

/-- The lines of outputs of which the first has a given number. -/
def linesFrom (n : Nat) (outputs : List (Option Text)) : List Text :=
  (outputs.zipIdx n).map fun p => lineText p.2 p.1

theorem isScalar_join_linesFrom (n : Nat) (outputs : List (Option Text)) :
    (Text.join ['\n'] (linesFrom n outputs)).IsScalar := by
  refine Text.isScalar_join (by decide) fun line hline => ?_
  obtain ⟨p, -, rfl⟩ := List.mem_map.1 hline
  exact isScalar_lineText p.2 p.1

theorem outputLines_eq {n : Nat} (hn : n ≤ 10 ^ Number.maxDigits) (outputs : List (Option Text)) :
    outputLines n outputs =
      if n + outputs.length ≤ 10 ^ Number.maxDigits then .ok (linesFrom n outputs)
      else .error .tooManyDigits := by
  induction outputs generalizing n with
  | nil =>
    rw [outputLines, if_pos (by simpa using hn)]
    rfl
  | cons output outputs ih =>
    rw [outputLines, outputLine_eq, List.length_cons]
    by_cases hlt : n < 10 ^ Number.maxDigits
    · have hcount : n + 1 + outputs.length = n + (outputs.length + 1) := by omega
      have hrest := ih (Nat.succ_le_of_lt hlt)
      rw [hcount] at hrest
      rw [if_pos hlt]
      by_cases hall : n + (outputs.length + 1) ≤ 10 ^ Number.maxDigits
      · rw [if_pos hall] at hrest ⊢
        simp only [hrest]
        rfl
      · rw [if_neg hall] at hrest ⊢
        simp only [hrest]
    · have hover : ¬ n + (outputs.length + 1) ≤ 10 ^ Number.maxDigits := by
        generalize 10 ^ Number.maxDigits = bound at hlt
        omega
      rw [if_neg hlt, if_neg hover]

/-- A text with one line for each output. It is read as the object with the number of the output and
the output with its pairs of surrogates joined, which is the output itself if it has none. -/
structure Lists (text : Text) (outputs : List (Option Text)) : Prop where
  length : text.lines.length = outputs.length
  read : ∀ i output, outputs[i]? = some output →
    ∃ line shown, text.lines[i]? = some line ∧ Json.read line = .ok (lineValue i shown) ∧
      shown = output.map Codec.Utf16.joinPairs ∧
      (shown = output ↔ ∀ t ∈ output, ¬ Codec.Utf16.HasPair t)

theorem lists_join_linesFrom {outputs : List (Option Text)}
    (h : outputs.length ≤ 10 ^ Number.maxDigits) :
    Lists (Text.join ['\n'] (linesFrom 0 outputs)) outputs := by
  have hlines : (Text.join ['\n'] (linesFrom 0 outputs)).lines = linesFrom 0 outputs := by
    refine Text.lines_join (fun t ht => ?_) (fun t ht => ?_)
    · obtain ⟨p, -, rfl⟩ := List.mem_map.1 ht
      exact List.cons_ne_nil _ _
    · obtain ⟨p, -, rfl⟩ := List.mem_map.1 ht
      exact newline_not_mem_lineText p.2 p.1
  refine ⟨?_, fun i output hi => ?_⟩
  · rw [hlines, linesFrom, List.length_map, List.length_zipIdx]
  · have hlt : i < 10 ^ Number.maxDigits := lt_of_lt_of_le (List.getElem?_eq_some_iff.1 hi).1 h
    refine ⟨lineText i output, _, ?_, read_lineText hlt output, rfl, map_joinPairs_eq_self_iff⟩
    rw [hlines, linesFrom, List.getElem?_map, List.getElem?_zipIdx, hi, Nat.zero_add]
    rfl

end CommandLine

end BraceTemplate
