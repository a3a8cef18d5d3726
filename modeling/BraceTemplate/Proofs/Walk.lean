import BraceTemplate.Proofs.Lexing
import BraceTemplate.Proofs.OperandChecks

/-!
# BraceTemplate.Proofs.Walk

The walk of a report over the tokens, said by the tokens alone: where each of them begins
(`Token.placed`), whether a block is open behind it (`Token.leavesOpen`), and what is warned of at
it (`Token.warnings`).

* `passes_visit`: what one token adds to the walk.
* `passes_visitAll`: what a list of tokens adds to it.
* `mem_warningsFrom_iff`: each warning is that of one token, at its offset.
-/

namespace BraceTemplate

open Token (sources)

namespace Token

/-- Tokens with the offsets at which they begin. -/
def placed : Nat → List Token → List (Nat × Token)
  | _, [] => []
  | n, t :: ts => (n, t) :: placed (n + t.source.length) ts

theorem placed_append (n : Nat) (ts us : List Token) :
    placed n (ts ++ us) = placed n ts ++ placed (n + (sources ts).length) us := by
  induction ts generalizing n with
  | nil => rfl
  | cons t ts ih => simp [placed, ih, Nat.add_assoc]

theorem map_snd_placed (n : Nat) (ts : List Token) : (placed n ts).map Prod.snd = ts := by
  induction ts generalizing n with
  | nil => rfl
  | cons t ts ih => simp [placed, ih]

theorem mem_placed_iff {n k : Nat} {t : Token} {ts : List Token} :
    (k, t) ∈ placed n ts ↔
      ∃ before after, ts = before ++ t :: after ∧ k = n + (sources before).length := by
  constructor
  · intro h
    induction ts generalizing n with
    | nil => cases h
    | cons u ts ih =>
      rcases List.mem_cons.1 h with h | h
      · cases h
        exact ⟨[], ts, rfl, rfl⟩
      · obtain ⟨before, after, rfl, rfl⟩ := ih h
        exact ⟨u :: before, after, rfl, by simp [Nat.add_assoc]⟩
  · rintro ⟨before, after, rfl, rfl⟩
    rw [placed_append]
    exact List.mem_append_right _ List.mem_cons_self

theorem le_of_mem_placed {n : Nat} {x : Nat × Token} {ts : List Token} (h : x ∈ placed n ts) :
    n ≤ x.1 := by
  obtain ⟨before, after, -, hk⟩ := mem_placed_iff.1 h
  omega

theorem before_eq_of_length {before before' after after' : List Token} {t t' : Token}
    (h : before ++ t :: after = before' ++ t' :: after') (ht : t.source ≠ [])
    (ht' : t'.source ≠ []) (hlength : (sources before).length = (sources before').length) :
    before = before' := by
  have hpos := List.length_pos_iff.2 ht
  have hpos' := List.length_pos_iff.2 ht'
  -- were one of them longer, the token of the other would be in it
  rcases List.append_eq_append_iff.1 h with ⟨more, rfl, hmore⟩ | ⟨more, rfl, hmore⟩
  · cases more with
    | nil => exact (List.append_nil _).symm
    | cons u more =>
      cases hmore
      simp only [sources_append, sources_cons, List.length_append] at hlength
      omega
  · cases more with
    | nil => exact List.append_nil _
    | cons u more =>
      cases hmore
      simp only [sources_append, sources_cons, List.length_append] at hlength
      omega

/-- Whether a block is open behind a token. -/
def leavesOpen (isOpen : Bool) : Token → Bool
  | blockOpen => true
  | blockClose => false
  | _ => isOpen

/-- What is warned of at a token that begins at an offset: the braces of a literal text, or a marker
that does not find the block as it should. -/
def warnings (n : Nat) (isOpen : Bool) : Token → List Problem
  | literal text => Report.strayBraces n text
  | blockOpen => if isOpen then [.blockReopened n] else []
  | blockClose => if isOpen then [] else [.closeWithoutBlock n]
  | replacement _ _ => []

def warningsFrom : Nat → Bool → List Token → List Problem
  | _, _, [] => []
  | n, isOpen, t :: ts =>
    t.warnings n isOpen ++ warningsFrom (n + t.source.length) (t.leavesOpen isOpen) ts

theorem warningsFrom_append (n : Nat) (isOpen : Bool) (ts us : List Token) :
    warningsFrom n isOpen (ts ++ us) = warningsFrom n isOpen ts ++
      warningsFrom (n + (sources ts).length) (ts.foldl leavesOpen isOpen) us := by
  induction ts generalizing n isOpen with
  | nil => rfl
  | cons t ts ih => simp [warningsFrom, ih, Nat.add_assoc]

theorem mem_warningsFrom_iff {n : Nat} {isOpen : Bool} {ts : List Token} {p : Problem} :
    p ∈ warningsFrom n isOpen ts ↔ ∃ before t after, ts = before ++ t :: after ∧
      p ∈ t.warnings (n + (sources before).length) (before.foldl leavesOpen isOpen) := by
  constructor
  · intro h
    induction ts generalizing n isOpen with
    | nil => cases h
    | cons t ts ih =>
      rcases List.mem_append.1 h with h | h
      · exact ⟨[], t, ts, rfl, h⟩
      · obtain ⟨before, u, after, rfl, hp⟩ := ih h
        refine ⟨t :: before, u, after, rfl, ?_⟩
        rwa [sources_cons, List.length_append, ← Nat.add_assoc]
  · rintro ⟨before, t, after, rfl, hp⟩
    rw [warningsFrom_append]
    exact List.mem_append_right _ (List.mem_append_left _ hp)

theorem exists_strayBrace_of_mem {n : Nat} {text : Text} {p : Problem}
    (h : p ∈ Report.strayBraces n text) : ∃ snippet k, p = .strayBrace snippet k := by
  induction text generalizing n with
  | nil => cases h
  | cons c text ih =>
    rw [Report.strayBraces] at h
    simp only at h
    split at h
    · rcases List.mem_cons.1 h with rfl | h
      · exact ⟨_, _, rfl⟩
      · exact ih h
    · exact ih h

theorem blockReopened_mem_warnings_iff {n k : Nat} {isOpen : Bool} {t : Token} :
    .blockReopened k ∈ t.warnings n isOpen ↔ t = .blockOpen ∧ isOpen = true ∧ k = n := by
  cases t with
  | literal text =>
    constructor
    · intro h
      obtain ⟨snippet, offset, hp⟩ := exists_strayBrace_of_mem h
      cases hp
    · rintro ⟨ht, -⟩
      cases ht
  | blockOpen => cases isOpen <;> simp [warnings]
  | blockClose => cases isOpen <;> simp [warnings]
  | replacement e b => simp [warnings]

theorem closeWithoutBlock_mem_warnings_iff {n k : Nat} {isOpen : Bool} {t : Token} :
    .closeWithoutBlock k ∈ t.warnings n isOpen ↔ t = .blockClose ∧ isOpen = false ∧ k = n := by
  cases t with
  | literal text =>
    constructor
    · intro h
      obtain ⟨snippet, offset, hp⟩ := exists_strayBrace_of_mem h
      cases hp
    · rintro ⟨ht, -⟩
      cases ht
  | blockOpen => cases isOpen <;> simp [warnings]
  | blockClose => cases isOpen <;> simp [warnings]
  | replacement e b => simp [warnings]

end Token

namespace Report

/-- What a walk over tokens adds to a walk. -/
structure Passes (w : Walk) (ts : List Token) (w' : Walk) : Prop where
  offset : w'.offset = w.offset + (sources ts).length
  isOpen : w'.isOpen = ts.foldl Token.leavesOpen w.isOpen
  tokens : w'.report.tokens = w.report.tokens ++ (ts.filter (!·.isLiteral)).map Token.source
  warnings : w'.report.warnings =
    w.report.warnings ++ Token.warningsFrom w.offset w.isOpen ts
  /-- An error names the token and the offset at which it begins. -/
  errors : ∀ p ∈ w'.report.errors, p ∈ w.report.errors ∨
    ∃ n t cause, (n, t) ∈ Token.placed w.offset ts ∧ t.isLiteral = false ∧
      p = .operand t.source n cause

namespace Passes

theorem nil (w : Walk) : Passes w [] w :=
  ⟨rfl, rfl, by simp, by simp [Token.warningsFrom], fun _ => .inl⟩

theorem trans {w v w' : Walk} {ts us : List Token} (h : Passes w ts v) (h' : Passes v us w') :
    Passes w (ts ++ us) w' where
  offset := by simp [h'.offset, h.offset, Nat.add_assoc]
  isOpen := by rw [h'.isOpen, h.isOpen, List.foldl_append]
  tokens := by simp [h'.tokens, h.tokens]
  warnings := by
    rw [h'.warnings, h.warnings, Token.warningsFrom_append, h.offset, h.isOpen, List.append_assoc]
  errors := by
    intro p hp
    rw [Token.placed_append, ← h.offset]
    rcases h'.errors p hp with hp | ⟨n, t, cause, ht, hliteral, rfl⟩
    · rcases h.errors p hp with hp | ⟨n, t, cause, ht, hliteral, rfl⟩
      · exact .inl hp
      · exact .inr ⟨n, t, cause, List.mem_append_left _ ht, hliteral, rfl⟩
    · exact .inr ⟨n, t, cause, List.mem_append_right _ ht, hliteral, rfl⟩

theorem of_pass {w v : Walk} {t : Token} (hoffset : v.offset = w.offset)
    (htokens : v.report.tokens = w.report.tokens)
    (hwarnings : v.report.warnings = w.report.warnings ++ t.warnings w.offset w.isOpen)
    (herrors : ∀ p ∈ v.report.errors, p ∈ w.report.errors ∨
      t.isLiteral = false ∧ ∃ cause, p = .operand t.source w.offset cause) :
    Passes w [t] (v.pass t (t.leavesOpen w.isOpen)) where
  offset := by simp [Walk.pass, hoffset]
  isOpen := rfl
  tokens := by
    unfold Walk.pass
    cases hliteral : t.isLiteral with
    | true => simp [hliteral, htokens]
    | false => simp [hliteral, htokens]
  warnings := by
    unfold Walk.pass
    cases t.isLiteral with
    | true => simp [Token.warningsFrom, hwarnings]
    | false => simp [Token.warningsFrom, hwarnings]
  errors := by
    intro p hp
    rw [errors_pass] at hp
    rcases herrors p hp with hp | ⟨hliteral, cause, rfl⟩
    · exact .inl hp
    · exact .inr ⟨w.offset, t, cause, List.mem_cons_self, hliteral, rfl⟩

end Passes

/-- One token, one case per constructor. -/
theorem passes_visit [Packages] {level : ReportLevel} {now : Calendar.Moment} {locale : Text}
    {w w' : Walk}
    {t : Token}
    (h : visit level now locale w t = .ok w') : Passes w [t] w' := by
  cases t with
  | literal text =>
    cases h
    exact .of_pass rfl rfl rfl fun _ => .inl
  | blockOpen =>
    cases h
    cases hopen : w.isOpen with
    | true => exact .of_pass rfl rfl (by simp [Token.warnings, hopen, Walk.warn]) fun _ => .inl
    | false => exact .of_pass rfl rfl (by simp [Token.warnings, hopen]) fun _ => .inl
  | blockClose =>
    cases h
    cases hopen : w.isOpen with
    | true => exact .of_pass rfl rfl (by simp [Token.warnings, hopen]) fun _ => .inl
    | false => exact .of_pass rfl rfl (by simp [Token.warnings, hopen, Walk.warn]) fun _ => .inl
  | replacement e b =>
    have hcount := SameNotes.countBody w.report b
    simp only [visit] at h
    split at h
    · cases h
      exact .of_pass rfl rfl (by simp [Token.warnings]) fun _ => .inl
    · split at h
      · cases h
        refine .of_pass rfl hcount.tokens (by simp [Token.warnings, hcount.warnings]) fun p hp => ?_
        exact .inl (hcount.errors ▸ hp)
      · split at h
        · cases h
        · rename_i causes _
          cases h
          refine .of_pass rfl hcount.tokens (by simp [Token.warnings, hcount.warnings]) ?_
          intro p hp
          rcases List.mem_append.1 hp with hp | hp
          · exact .inl (hcount.errors ▸ hp)
          · obtain ⟨cause, -, rfl⟩ := List.mem_map.1 hp
            exact .inr ⟨rfl, cause, rfl⟩

/-- A list of tokens, by induction on it. -/
theorem passes_visitAll [Packages] {level : ReportLevel} {now : Calendar.Moment} {locale : Text}
    {w w' : Walk}
    {ts : List Token}
    (h : visitAll level now locale w ts = .ok w') : Passes w ts w' := by
  induction ts generalizing w with
  | nil =>
    cases h
    exact .nil _
  | cons t ts ih =>
    obtain ⟨v, hv, hrest⟩ := visitAll_cons_eq_ok h
    exact (passes_visit hv).trans (ih hrest)

theorem exists_visitAll_of_append [Packages] {level : ReportLevel} {now : Calendar.Moment}
    {locale : Text}
    {w w' : Walk}
    {ts us : List Token} (h : visitAll level now locale w (ts ++ us) = .ok w') :
    ∃ v, visitAll level now locale w ts = .ok v ∧ visitAll level now locale v us = .ok w' := by
  induction ts generalizing w with
  | nil => exact ⟨w, rfl, h⟩
  | cons t ts ih =>
    obtain ⟨v, hv, hrest⟩ := visitAll_cons_eq_ok h
    obtain ⟨u, hu, hrest⟩ := ih hrest
    refine ⟨u, ?_, hrest⟩
    rw [visitAll, hv]
    exact hu

end Report

section

variable {level : ReportLevel} {settings : Settings} {template : Text}

/-- The report on a template that is scanned without a fault is made, except where it also checks
operands and the check of one of them faults. -/
theorem exists_report [Packages] (hscan : (scan template).fault = none) (level : ReportLevel)
    (settings : Settings) (now : Calendar.Moment) :
    (∃ report, validate level settings now template = .ok report) ∨
      level ≠ .permissive ∧ ∃ t ∈ (scan template).tokens, ∃ f,
        Report.causes now settings.locale t = .error f := by
  cases hvalidate : validate level settings now template with
  | ok report => exact .inl ⟨report, rfl⟩
  | error f =>
    refine .inr ⟨?_, ?_⟩
    · rintro rfl
      obtain ⟨report, hreport⟩ := exists_validate_permissive hscan settings now
      rw [hreport] at hvalidate
      cases hvalidate
    · obtain ⟨t, ht, hcauses⟩ := exists_causes_of_validate hscan hvalidate
      exact ⟨t, ht, f, hcauses⟩

end

end BraceTemplate
