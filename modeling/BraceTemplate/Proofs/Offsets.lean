import BraceTemplate.Proofs.Tokenization
import BraceTemplate.Proofs.Walk

/-!
# BraceTemplate.Proofs.Offsets

The offsets in a report are those of the template. Stray braces are reported from left to right,
each of them once, and they are exactly the opening braces of the template outside its markers and
replacements (`mem_strayOffsets_warningsFrom_iff`); the tokens of the report stand in the template
at the offsets that the walk has when it comes to them, and every other problem names one of these
(`locates_of_validate`).
-/

namespace BraceTemplate

open Token (sources)

/-! ## Stray braces -/

namespace Problem

def strayOffset? : Problem → Option Nat
  | strayBrace _ offset => some offset
  | _ => none

/-- The offsets of the stray braces among the problems. -/
def strayOffsets (ps : List Problem) : List Nat := ps.filterMap strayOffset?

theorem strayOffsets_append (ps qs : List Problem) :
    strayOffsets (ps ++ qs) = strayOffsets ps ++ strayOffsets qs :=
  List.filterMap_append

theorem strayOffsets_strayBraces_cons (n : Nat) (c : CodePoint) (t : Text) :
    strayOffsets (Report.strayBraces n (c :: t)) =
      (if c = '\x7b' then [n] else []) ++ strayOffsets (Report.strayBraces (n + 1) t) := by
  rw [Report.strayBraces]
  simp only
  split
  · rfl
  · rfl

theorem mem_strayOffsets_strayBraces_iff {n p : Nat} {t : Text} :
    p ∈ strayOffsets (Report.strayBraces n t) ↔ ∃ i, p = n + i ∧ t[i]? = some (.char '\x7b') := by
  induction t generalizing n with
  | nil => simp [strayOffsets, Report.strayBraces]
  | cons c t ih =>
    have hfirst : p ∈ (if c = '\x7b' then [n] else []) ↔ p = n ∧ c = '\x7b' := by
      split
      · simp [*]
      · simp [*]
    have hsplit :=
      Nat.or_exists_add_one (p := fun i => p = n + i ∧ (c :: t)[i]? = some (.char '\x7b'))
    rw [strayOffsets_strayBraces_cons, List.mem_append, hfirst, ih, ← hsplit]
    simp [Nat.add_assoc, Nat.add_comm 1]

theorem pairwise_strayOffsets_strayBraces (n : Nat) (t : Text) :
    (strayOffsets (Report.strayBraces n t)).Pairwise (· < ·) := by
  induction t generalizing n with
  | nil => exact .nil
  | cons c t ih =>
    rw [strayOffsets_strayBraces_cons]
    split
    · refine List.pairwise_cons.2 ⟨fun p hp => ?_, ih _⟩
      obtain ⟨i, rfl, -⟩ := mem_strayOffsets_strayBraces_iff.1 hp
      omega
    · exact ih _

theorem mem_strayOffsets_warnings_iff {n p : Nat} {isOpen : Bool} {t : Token} :
    p ∈ strayOffsets (t.warnings n isOpen) ↔
      t.isLiteral = true ∧ ∃ i, p = n + i ∧ t.source[i]? = some (.char '\x7b') := by
  cases t with
  | literal text =>
    rw [Token.warnings, mem_strayOffsets_strayBraces_iff]
    simp [Token.isLiteral, Token.source]
  | blockOpen =>
    cases isOpen <;> simp [Token.warnings, Token.isLiteral, strayOffsets, strayOffset?]
  | blockClose =>
    cases isOpen <;> simp [Token.warnings, Token.isLiteral, strayOffsets, strayOffset?]
  | replacement e b => simp [Token.warnings, Token.isLiteral, strayOffsets]

theorem pairwise_strayOffsets_warnings (n : Nat) (isOpen : Bool) (t : Token) :
    (strayOffsets (t.warnings n isOpen)).Pairwise (· < ·) := by
  cases t with
  | literal text => exact pairwise_strayOffsets_strayBraces n text
  | blockOpen => cases isOpen <;> exact .nil
  | blockClose => cases isOpen <;> exact .nil
  | replacement e b => exact .nil

/-- The stray braces of tokens are the braces of their text outside the tokens that are not literal.
By induction on the tokens: a brace lies in the first one or behind it. -/
theorem mem_strayOffsets_warningsFrom_iff {n p : Nat} {isOpen : Bool} {ts : List Token} :
    p ∈ strayOffsets (Token.warningsFrom n isOpen ts) ↔
      (∃ i, p = n + i ∧ (sources ts)[i]? = some (.char '\x7b')) ∧
      ∀ x ∈ Token.placed n ts, x.2.isLiteral = false →
        ¬ (x.1 ≤ p ∧ p < x.1 + x.2.source.length) := by
  induction ts generalizing n isOpen with
  | nil => simp [Token.warningsFrom, strayOffsets]
  | cons t ts ih =>
    rw [Token.warningsFrom, strayOffsets_append, List.mem_append, mem_strayOffsets_warnings_iff,
      ih, Token.sources_cons]
    constructor
    · rintro (⟨hliteral, i, rfl, hi⟩ | ⟨⟨i, rfl, hi⟩, houtside⟩)
      · obtain ⟨hlt, -⟩ := List.getElem?_eq_some_iff.1 hi
        refine ⟨⟨i, rfl, by rwa [List.getElem?_append_left hlt]⟩, ?_⟩
        rintro x hx hx' ⟨hle, -⟩
        rcases List.mem_cons.1 hx with rfl | hx
        · rw [hliteral] at hx'
          cases hx'
        · have hle' := Token.le_of_mem_placed hx
          omega
      · refine ⟨⟨t.source.length + i, by omega, ?_⟩, ?_⟩
        · rwa [List.getElem?_append_right (by omega), Nat.add_sub_cancel_left]
        · rintro x hx hx' ⟨hle, hlt⟩
          rcases List.mem_cons.1 hx with rfl | hx
          · simp only at hlt
            omega
          · exact houtside x hx hx' ⟨hle, hlt⟩
    · rintro ⟨⟨i, rfl, hi⟩, houtside⟩
      by_cases hlt : i < t.source.length
      · refine .inl ⟨?_, i, rfl, by rwa [List.getElem?_append_left hlt] at hi⟩
        have hhead := houtside (n, t) List.mem_cons_self
        cases hliteral : t.isLiteral with
        | true => rfl
        | false =>
          refine absurd ⟨?_, ?_⟩ (hhead hliteral)
          · simp
          · simpa using hlt
      · refine .inr ⟨⟨i - t.source.length, by omega, ?_⟩, fun x hx => ?_⟩
        · rwa [List.getElem?_append_right (by omega)] at hi
        · exact houtside x (List.mem_cons_of_mem _ hx)

/-- The stray braces of tokens, from left to right. -/
theorem pairwise_strayOffsets_warningsFrom (n : Nat) (isOpen : Bool) (ts : List Token) :
    (strayOffsets (Token.warningsFrom n isOpen ts)).Pairwise (· < ·) := by
  induction ts generalizing n isOpen with
  | nil => exact .nil
  | cons t ts ih =>
    rw [Token.warningsFrom, strayOffsets_append]
    refine List.pairwise_append.2 ⟨pairwise_strayOffsets_warnings n isOpen t, ih _ _, ?_⟩
    intro p hp q hq
    obtain ⟨-, i, rfl, hi⟩ := mem_strayOffsets_warnings_iff.1 hp
    obtain ⟨⟨j, rfl, -⟩, -⟩ := mem_strayOffsets_warningsFrom_iff.1 hq
    obtain ⟨hlt, -⟩ := List.getElem?_eq_some_iff.1 hi
    omega

end Problem

/-! ## Entries -/

namespace Token

/-- The markers and replacements among the tokens, with the offsets at which they begin. -/
def entries (ts : List Token) : List (Nat × Token) := (placed 0 ts).filter (!·.2.isLiteral)

theorem mem_entries_iff {n : Nat} {t : Token} {ts : List Token} :
    (n, t) ∈ entries ts ↔ t.isLiteral = false ∧
      ∃ before after, ts = before ++ t :: after ∧ n = (sources before).length := by
  rw [entries, List.mem_filter, mem_placed_iff]
  simp [and_comm]

theorem map_source_entries (ts : List Token) :
    (entries ts).map (·.2.source) = (ts.filter (!·.isLiteral)).map source := by
  conv => rhs; rw [← map_snd_placed 0 ts, List.filter_map, List.map_map]
  rfl

/-- The entry at an index is behind as many others. By induction on the tokens, of which a literal
text does not count. -/
theorem exists_of_getElem?_placed {ts : List Token} {n k : Nat} {x : Nat × Token}
    (h : ((placed n ts).filter (!·.2.isLiteral))[k]? = some x) :
    ∃ before after, ts = before ++ x.2 :: after ∧ x.1 = n + (sources before).length ∧
      (before.filter (!·.isLiteral)).length = k := by
  induction ts generalizing n k with
  | nil => cases h
  | cons t ts ih =>
    rw [placed] at h
    cases hliteral : t.isLiteral with
    | true =>
      rw [List.filter_cons_of_neg (by simp [hliteral])] at h
      obtain ⟨before, after, rfl, hx, rfl⟩ := ih h
      exact ⟨t :: before, after, rfl, by simp [hx, Nat.add_assoc], by simp [hliteral]⟩
    | false =>
      rw [List.filter_cons_of_pos (by simp [hliteral])] at h
      cases k with
      | zero =>
        cases h
        exact ⟨[], ts, rfl, rfl, rfl⟩
      | succ k =>
        obtain ⟨before, after, rfl, hx, rfl⟩ := ih h
        exact ⟨t :: before, after, rfl, by simp [hx, Nat.add_assoc], by simp [hliteral]⟩

end Token

/-! ## Reports -/

/-- A report whose offsets are those of the template with the given tokens. -/
structure Report.Locates [Packages] (level : ReportLevel) (now : Calendar.Moment)
    (locale template : Text) (ts : List Token) (report : Report) : Prop where
  /-- Stray braces are reported from left to right, each of them once. -/
  strays_increase : (Problem.strayOffsets report.warnings).Pairwise (· < ·)
  /-- They are the opening braces of the template outside its entries. -/
  mem_strays_iff : ∀ p, p ∈ Problem.strayOffsets report.warnings ↔
    template[p]? = some (.char '\x7b') ∧
      ∀ x ∈ Token.entries ts, ¬ (x.1 ≤ p ∧ p < x.1 + x.2.source.length)
  tokens_eq : report.tokens = (Token.entries ts).map (·.2.source)
  /-- An entry stands in the template where it begins. -/
  slice_eq : ∀ x ∈ Token.entries ts, Text.slice x.1 (x.1 + x.2.source.length) template = x.2.source
  /-- The walk comes to an entry with its offset, when the entries before it are in the report. -/
  reached : ∀ k x, (Token.entries ts)[k]? = some x → ∃ before after w, ts = before ++ x.2 :: after ∧
    Report.visitAll level now locale ⟨.empty, 0, false⟩ before = .ok w ∧
      w.offset = x.1 ∧ w.report.tokens = report.tokens.take k
  reopened_mem : ∀ n, .blockReopened n ∈ report.warnings → (n, .blockOpen) ∈ Token.entries ts
  closed_mem : ∀ n, .closeWithoutBlock n ∈ report.warnings → (n, .blockClose) ∈ Token.entries ts
  error_mem : ∀ p ∈ report.errors, ∃ x ∈ Token.entries ts, ∃ cause,
    p = .operand x.2.source x.1 cause

namespace Report

variable {level : ReportLevel} {now : Calendar.Moment} {locale : Text} {ts : List Token} {w : Walk}

theorem slice_of_mem_entries {x : Nat × Token} (h : x ∈ Token.entries ts) :
    Text.slice x.1 (x.1 + x.2.source.length) (sources ts) = x.2.source := by
  obtain ⟨-, before, after, rfl, hn⟩ := Token.mem_entries_iff.1 h
  have hslice := slice_length_append (sources before) x.2.source (sources after)
  rwa [List.length_append, ← hn, ← Token.sources_cons, ← Token.sources_append] at hslice

theorem reached_of_visitAll [Packages] (h : visitAll level now locale ⟨.empty, 0, false⟩ ts = .ok w)
    {k : Nat}
    {x : Nat × Token} (hx : (Token.entries ts)[k]? = some x) :
    ∃ before after v, ts = before ++ x.2 :: after ∧
      visitAll level now locale ⟨.empty, 0, false⟩ before = .ok v ∧
        v.offset = x.1 ∧ v.report.tokens = w.report.tokens.take k := by
  obtain ⟨before, after, rfl, hoffset, hcount⟩ := Token.exists_of_getElem?_placed hx
  obtain ⟨v, hv, hrest⟩ := exists_visitAll_of_append h
  have hbefore := passes_visitAll hv
  have hafter := passes_visitAll hrest
  have hlength : v.report.tokens.length = k := by
    rw [hbefore.tokens, ← hcount]
    simp [empty]
  refine ⟨before, after, v, rfl, hv, ?_, ?_⟩
  · rw [hbefore.offset, hoffset]
  · rw [hafter.tokens, ← hlength, List.take_left]

theorem locates_of_visitAll [Packages] (h : visitAll level now locale ⟨.empty, 0, false⟩ ts = .ok w)
    {report : Report} (herrors : report.errors = w.report.errors)
    (hwarnings : report.warnings = w.report.warnings) (htokens : report.tokens = w.report.tokens) :
    report.Locates level now locale (sources ts) ts := by
  have hpasses := passes_visitAll h
  have hwarned : report.warnings = Token.warningsFrom 0 false ts := by
    rw [hwarnings, hpasses.warnings]
    rfl
  have hmem : ∀ {p : Problem}, p ∈ report.warnings → ∃ before t after, ts = before ++ t :: after ∧
      p ∈ t.warnings (sources before).length (before.foldl Token.leavesOpen false) := by
    intro p hp
    rw [hwarned] at hp
    simpa using Token.mem_warningsFrom_iff.1 hp
  exact {
    strays_increase := by
      rw [hwarned]
      exact Problem.pairwise_strayOffsets_warningsFrom 0 false ts
    mem_strays_iff := by
      intro p
      rw [hwarned, Problem.mem_strayOffsets_warningsFrom_iff]
      simp [Token.entries]
    tokens_eq := by
      rw [htokens, hpasses.tokens, Token.map_source_entries]
      rfl
    slice_eq := fun x => slice_of_mem_entries
    reached := by
      intro k x hx
      rw [htokens]
      exact reached_of_visitAll h hx
    reopened_mem := by
      intro n hn
      obtain ⟨before, t, after, rfl, hp⟩ := hmem hn
      obtain ⟨rfl, -, rfl⟩ := Token.blockReopened_mem_warnings_iff.1 hp
      exact Token.mem_entries_iff.2 ⟨rfl, before, after, rfl, rfl⟩
    closed_mem := by
      intro n hn
      obtain ⟨before, t, after, rfl, hp⟩ := hmem hn
      obtain ⟨rfl, -, rfl⟩ := Token.closeWithoutBlock_mem_warnings_iff.1 hp
      exact Token.mem_entries_iff.2 ⟨rfl, before, after, rfl, rfl⟩
    error_mem := by
      intro p hp
      rw [herrors] at hp
      rcases hpasses.errors p hp with hp | ⟨n, t, cause, ht, hliteral, rfl⟩
      · cases hp
      · refine ⟨(n, t), List.mem_filter.2 ⟨ht, ?_⟩, cause, rfl⟩
        simpa using hliteral }

end Report

/-- A report on a template that is scanned without a fault, on the tokens alone or on their operands
too. It is made, except where the check of an operand faults, and its offsets are those of the
template. -/
theorem locates_of_validate [Packages] {template : Text} (hscan : (scan template).fault = none)
    {level : ReportLevel} (hlevel : level ≠ .strict) (settings : Settings) (now : Calendar.Moment) :
    ((∃ report, validate level settings now template = .ok report) ∨
      level ≠ .permissive ∧ ∃ t ∈ (scan template).tokens, ∃ f,
        Report.causes now settings.locale t = .error f) ∧
    ∀ report, validate level settings now template = .ok report →
      report.Locates level now settings.locale template (scan template).tokens := by
  refine ⟨exists_report hscan level settings now, fun report hreport => ?_⟩
  obtain ⟨w, hw, herrors, hwarnings, htokens⟩ := exists_visitAll_of_validate hlevel hreport
  obtain ⟨-, hsources⟩ := scan_eq_iff.1 (by rw [← hscan] : scan template = ⟨_, none⟩)
  have hlocates := Report.locates_of_visitAll hw herrors hwarnings htokens
  rwa [hsources] at hlocates

/-- Two stray braces around a pattern that does not compile and a marker that closes nothing. -/
theorem locates_of_validate_strays :
    let template := "\x7ba\x7d\x7b[/(/]\x7d\x7b.\x7d\x7b".toText
    let report : Report := {
      errors := [.operand "\x7b[/(/]\x7d".toText 3 (.invalidExtraction ['('] "missing )".toText 1)]
      warnings := [.strayBrace "\x7ba\x7d".toText 0, .closeWithoutBlock 10, .strayBrace ['\x7b'] 13]
      tokens := ["\x7b[/(/]\x7d".toText, "\x7b.\x7d".toText]
      length := 14
      lines := 1
      sequentialReferences := 1
      highestPosition := 0
      usesClock := false }
    (scan template).fault = none ∧ validate .standard {} ⟨0, some 0⟩ template = .ok report ∧
      Problem.strayOffsets report.warnings = [0, 13] ∧
      report.Locates .standard ⟨0, some 0⟩ "en_US".toText template (scan template).tokens := by
  intro template report
  have hscan : (scan template).fault = none := by decide +kernel
  have hreport : validate .standard {} ⟨0, some 0⟩ template = .ok report := by decide +kernel
  exact ⟨hscan, hreport, rfl, (locates_of_validate hscan (by decide) {} _).2 report hreport⟩

end BraceTemplate
