import BraceTemplate.Proofs.Grammar

/-!
# BraceTemplate.Proofs.Keyword

Reading keywords. A character counts as one letter at most (`letter_unique`), so a text that spells
a keyword is read as that keyword and as no other one that differs from it at some letter.
-/

namespace BraceTemplate

namespace Directive

/-! ## Keywords -/

theorem readWord?_eq_some_iff {word t w rest : Text} :
    readWord? word t = some (w, rest) ↔ Spells word w ∧ t = w ++ rest := by
  induction word generalizing t w with
  | nil =>
    simp only [readWord?, Option.some.injEq, Prod.mk.injEq, Spells, List.forall₂_nil_left_iff]
    constructor
    · rintro ⟨rfl, rfl⟩
      exact ⟨rfl, rfl⟩
    · rintro ⟨rfl, rfl⟩
      exact ⟨rfl, rfl⟩
  | cons letter word ih =>
    constructor
    · intro h
      cases t with
      | nil => cases h
      | cons c t =>
        simp only [readWord?] at h
        split at h
        · rename_i hc
          split at h
          · rename_i hw
            cases h
            obtain ⟨hs, rfl⟩ := ih.1 hw
            exact ⟨.cons hc hs, rfl⟩
          · cases h
        · cases h
    · rintro ⟨hs, rfl⟩
      cases hs with
      | @cons _ c _ w hc hs => simp [readWord?, hc, ih.2 ⟨hs, rfl⟩]

theorem forall_mem_of_all {p : CodePoint → Prop} [DecidablePred p] {t : Text}
    (h : t.all (fun c => p c) = true) : ∀ c ∈ t, p c := by
  simpa using h

/-- The characters beyond ASCII that count as a letter. -/
def foldedLetters : Text :=
  [CodePoint.ofNat 0x130, CodePoint.ofNat 0x131, CodePoint.ofNat 0x17f, CodePoint.ofNat 0x212a]

/-- The lower case letter that a character counts as in a keyword. -/
def keywordLetter (c : CodePoint) : CodePoint :=
  if c = CodePoint.ofNat 0x130 ∨ c = CodePoint.ofNat 0x131 then 'i'
  else if c = CodePoint.ofNat 0x17f then 's'
  else if c = CodePoint.ofNat 0x212a then 'k'
  else c.toLower

theorem keywordLetter_eq {letter c : CodePoint} (h : Text.isLetterAnyCase letter c = true)
    (hl : letter.toNat < 128) : keywordLetter c = letter := by
  simp only [Text.isLetterAnyCase, Bool.or_eq_true, Bool.and_eq_true, decide_eq_true_eq] at h
  unfold keywordLetter
  rcases h with ((h | ⟨rfl, h⟩) | ⟨rfl, h⟩) | ⟨rfl, h⟩
  · -- beyond ASCII the lower case is the character itself, which is no letter of a keyword
    have hfolded : ∀ d ∈ foldedLetters, 128 ≤ d.toLower.toNat := forall_mem_of_all (by decide)
    have hnot : ∀ d ∈ foldedLetters, c ≠ d := by
      rintro d hd rfl
      have := hfolded c hd
      rw [h] at this
      omega
    simp only [foldedLetters, List.mem_cons, List.not_mem_nil, or_false, forall_eq_or_imp,
      forall_eq] at hnot
    simp [hnot, h]
  · simp [h]
  · subst h
    decide
  · subst h
    decide

theorem letter_unique {a b c : CodePoint} (ha : Text.isLetterAnyCase a c = true)
    (hb : Text.isLetterAnyCase b c = true) (haa : a.toNat < 128) (hba : b.toNat < 128) : a = b :=
  (keywordLetter_eq ha haa).symm.trans (keywordLetter_eq hb hba)

/-- Two keywords differ at some letter that both have. -/
def clash : Text → Text → Bool
  | a :: v, b :: w => (a ≠ b && a.toNat < 128 && b.toNat < 128) || clash v w
  | _, _ => false

theorem readWord?_eq_none_of_clash {k x w : Text} (hw : Spells k w) (hc : clash k x = true)
    (rest : Text) : readWord? x (w ++ rest) = none := by
  induction hw generalizing x with
  | nil => cases hc
  | @cons a c k w ha hw ih =>
    cases x with
    | nil => cases hc
    | cons b x =>
      simp only [clash, Bool.or_eq_true, Bool.and_eq_true, decide_eq_true_eq] at hc
      rw [List.cons_append, readWord?]
      split
      · rename_i hb
        rcases hc with ⟨⟨hne, haa⟩, hba⟩ | hc
        · exact absurd (letter_unique ha hb haa hba) hne
        · rw [ih hc]
      · rfl

theorem readAnyWord?_append {words : List String} {w : Text} {k : String} (hk : k ∈ words)
    (hw : Spells k.toText w) (hc : ∀ x ∈ words, x = k ∨ clash k.toText x.toText = true)
    (rest : Text) : readAnyWord? words (w ++ rest) = some (w, rest) := by
  unfold readAnyWord?
  induction words with
  | nil => cases hk
  | cons x words ih =>
    rw [List.findSome?_cons]
    rcases hc x (by simp) with rfl | hx
    · rw [readWord?_eq_some_iff.2 ⟨hw, rfl⟩]
    · rw [readWord?_eq_none_of_clash hw hx]
      have hne : k ≠ x := by
        rintro rfl
        have hnone := readWord?_eq_none_of_clash hw hx rest
        rw [readWord?_eq_some_iff.2 ⟨hw, rfl⟩] at hnone
        cases hnone
      exact ih ((List.mem_cons.1 hk).resolve_left hne) fun y hy => hc y (by simp [hy])

theorem readAnyWord?_eq_none_of_clash {words : List String} {k w : Text} (hw : Spells k w)
    (hc : ∀ x ∈ words, clash k x.toText = true) (rest : Text) :
    readAnyWord? words (w ++ rest) = none := by
  unfold readAnyWord?
  rw [List.findSome?_eq_none_iff]
  intro x hx
  exact readWord?_eq_none_of_clash hw (hc x hx) rest

theorem spellsAny_of_readAnyWord? {words : List String} {t w rest : Text}
    (h : readAnyWord? words t = some (w, rest)) : SpellsAny words w ∧ t = w ++ rest := by
  obtain ⟨x, hx, hr⟩ := List.exists_of_findSome?_eq_some h
  obtain ⟨hw, rfl⟩ := readWord?_eq_some_iff.1 hr
  exact ⟨⟨x, hx, hw⟩, rfl⟩

theorem head_of_spells {k w : Text} (hw : Spells k w) {letter : CodePoint} {word : Text}
    (hk : k = letter :: word) :
    ∃ c v, w = c :: v ∧ Text.isLetterAnyCase letter c = true := by
  subst hk
  cases hw with
  | @cons _ c _ v hc _ => exact ⟨c, v, rfl, hc⟩

/-! ## First characters -/

/-- The lower case letters that keywords begin with. -/
def keywordInitials : Text := ['t', 'l', 'u', 'b', 'd', 'n']

def hasInitial (word : String) : Bool := word.toText.head?.any keywordInitials.contains

/-- The characters that keywords begin with, in any case. -/
def keywordHeads : Text := "tTlLuUbBdDnN".toText

theorem eq_or_toNat_of_toLower {c letter : CodePoint} (h : c.toLower = letter) :
    c = letter ∨ c.toNat ≤ 90 ∧ c.toNat + 32 = letter.toNat := by
  subst h
  cases c with
  | surrogate k => exact .inl rfl
  | char c =>
    simp only [CodePoint.toLower_char, CodePoint.toNat_char]
    unfold Char.toLower
    split
    · rename_i hc
      right
      have h1 : c.val.toNat ≤ 90 := hc.2
      have h2 : c.toNat = c.val.toNat := rfl
      have h3 : ('a'.val - 'A'.val).toNat = 32 := rfl
      refine ⟨h1, ?_⟩
      show c.toNat + 32 = (c.val + ('a'.val - 'A'.val)).toNat
      rw [UInt32.toNat_add, h3]
      omega
    · exact .inl rfl

theorem spelling_of_isLetterAnyCase {letter c : CodePoint}
    (h : Text.isLetterAnyCase letter c = true) :
    c = letter ∨ c.toNat + 32 = letter.toNat ∨
      (letter = 'i' ∨ letter = 's' ∨ letter = 'k') ∧ c ∈ foldedLetters := by
  simp only [Text.isLetterAnyCase, Bool.or_eq_true, Bool.and_eq_true, decide_eq_true_eq] at h
  simp only [foldedLetters, List.mem_cons, List.not_mem_nil, or_false]
  rcases h with ((h | h) | h) | h
  · rcases eq_or_toNat_of_toLower h with hc | hc
    · exact .inl hc
    · exact .inr (.inl hc.2)
  all_goals tauto

theorem mem_keywordHeads {letter c : CodePoint} (h : Text.isLetterAnyCase letter c = true)
    (hl : letter ∈ keywordInitials) : c ∈ keywordHeads := by
  have hinitial : ∀ l ∈ keywordInitials, ¬ (l = 'i' ∨ l = 's' ∨ l = 'k') ∧
      l ∈ keywordHeads ∧ l.toUpper ∈ keywordHeads ∧ l.toUpper.toNat + 32 = l.toNat :=
    forall_mem_of_all (by decide)
  obtain ⟨hfold, hmem, hupper, hl⟩ := hinitial letter hl
  rcases spelling_of_isLetterAnyCase h with rfl | hc | hc
  · exact hmem
  · have : c = letter.toUpper := CodePoint.toNat_inj.1 (by omega)
    rwa [this]
  · exact absurd hc.1 hfold

theorem head_of_spellsAny {words : List String} {w : Text} (h : SpellsAny words w)
    (hw : ∀ x ∈ words, hasInitial x = true) : ∃ c v, w = c :: v ∧ c ∈ keywordHeads := by
  obtain ⟨x, hx, hs⟩ := h
  obtain ⟨letter, hhead, hl⟩ := (Option.any_eq_true _ _).1 (hw x hx)
  rw [List.contains_iff_mem] at hl
  obtain ⟨c, v, rfl, hc⟩ := head_of_spells hs (List.eq_cons_of_mem_head? hhead)
  exact ⟨c, v, rfl, mem_keywordHeads hc hl⟩

/-- The first characters of a form. -/
def leads : Directive → CodePoint → Bool
  | position _, c => Text.isDecimal c
  | substring _ _, c => c = '['
  | extract _ _, c => c = '['
  | printf _, c => c = '%'
  | _, c => keywordHeads.contains c

theorem source_eq_cons {d : Directive} (h : d.Written) :
    ∃ c t, d.source = c :: t ∧ d.leads c = true := by
  have word : ∀ {words : List String} {w : Text}, SpellsAny words w →
      (∀ x ∈ words, hasInitial x = true) →
      ∃ c v, w = c :: v ∧ keywordHeads.contains c = true := by
    intro words w hs hw
    obtain ⟨c, v, hwv, hc⟩ := head_of_spellsAny hs hw
    exact ⟨c, v, hwv, List.contains_iff_mem.2 hc⟩
  have dated : ∀ {isClock : Bool} {w : Text}, Spells (dateWord isClock).toText w →
      ∃ c v, w = c :: v ∧ keywordHeads.contains c = true := by
    intro isClock w hs
    have hany : SpellsAny [dateWord isClock] w := ⟨_, by simp, hs⟩
    refine word hany ?_
    cases isClock <;> decide
  cases h with
  | position hd =>
    obtain ⟨c, v, rfl⟩ := List.exists_cons_of_ne_nil hd.1
    exact ⟨c, v, rfl, hd.2 c (by simp)⟩
  | trim hs => exact word hs (by decide)
  | lower hs => exact word hs (by decide)
  | upper hs => exact word hs (by decide)
  | codec hs => exact word hs (by decide)
  | start _ => exact ⟨_, _, rfl, rfl⟩
  | bounds _ _ _ => exact ⟨_, _, rfl, rfl⟩
  | extract _ _ => exact ⟨_, _, rfl, rfl⟩
  | printf hs =>
    cases hs
    exact ⟨_, _, rfl, rfl⟩
  | date hs => exact dated hs
  | format hs _ =>
    obtain ⟨c, v, rfl, hc⟩ := dated hs
    exact ⟨c, _, rfl, hc⟩
  | zone hs _ _ =>
    obtain ⟨c, v, rfl, hc⟩ := dated hs
    exact ⟨c, _, rfl, hc⟩

theorem isDecimal_keywordHeads : ∀ c ∈ keywordHeads, Text.isDecimal c = false :=
  forall_mem_of_all (by decide)

theorem readAnyWord?_of_spellsAny {words : List String} {w : Text} (hw : SpellsAny words w)
    (hc : ∀ x ∈ words, ∀ y ∈ words, y = x ∨ clash x.toText y.toText = true) (rest : Text) :
    readAnyWord? words (w ++ rest) = some (w, rest) := by
  obtain ⟨x, hx, hs⟩ := hw
  exact readAnyWord?_append hx hs (hc x hx) rest

theorem readAnyWord?_eq_none_of_spellsAny {words others : List String} {w : Text}
    (hw : SpellsAny words w)
    (hc : ∀ x ∈ words, ∀ y ∈ others, clash x.toText y.toText = true) (rest : Text) :
    readAnyWord? others (w ++ rest) = none := by
  obtain ⟨x, hx, hs⟩ := hw
  exact readAnyWord?_eq_none_of_clash hs (hc x hx) rest

theorem readAnyWord?_eq_none_of_head {words : List String} {c : CodePoint} {t : Text}
    (hw : ∀ x ∈ words, hasInitial x = true) (hc : c ∉ keywordHeads) :
    readAnyWord? words (c :: t) = none := by
  cases h : readAnyWord? words (c :: t) with
  | none => rfl
  | some r =>
    obtain ⟨hs, ht⟩ := spellsAny_of_readAnyWord? h
    obtain ⟨d, v, hd, hmem⟩ := head_of_spellsAny hs hw
    rw [hd] at ht
    cases ht
    exact absurd hmem hc

end Directive

end BraceTemplate
