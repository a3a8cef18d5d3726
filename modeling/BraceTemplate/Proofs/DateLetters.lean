import BraceTemplate.Proofs.TrialDate
import Mathlib.Algebra.Group.Nat.Even
import Mathlib.Data.List.Forall2

/-!
# BraceTemplate.Proofs.DateLetters

Letters of a date pattern that are no fields. They are looked for with every quote opening or
closing quoted text, while the pattern is read with two quotes in a row taken for one that is
written (`Marked`) and only the quotes that are left opening and closing. Taking two quotes away
does not change whether their number is even (`Marked.even_count`), so both see the same characters
outside quoted text (`standsOutside_iff`), and the letter that is reported is the first unknown one
there (`unknownLetter?_eq_some_iff`).

What is read falls into fields, characters that are copied and quoted texts (`Divides`), and a date
is what they are written as, one behind the other (`apply_readMarked_eq_ok_iff`). The letter that is
reported is the first one that would be copied from outside quoted text
(`Divides.unknownLetter?_eq`), so that no date has any (`formatDate_letters`).
-/

namespace BraceTemplate.Calendar

namespace DatePattern

/-! ## Two quotes in a row -/

/-- The second text is the first one with a mark in the place of every two quotes in a row, taken
from the left. So a quote that is left has no quote behind it. -/
inductive Marked : Text → Text → Prop where
  | nil : Marked [] []
  | pair {t u : Text} (rest : Marked t u) : Marked ('\'' :: '\'' :: t) (quoteMark :: u)
  | single {t u : Text} (h : t.head? ≠ some (.char '\'')) (rest : Marked t u) :
      Marked ('\'' :: t) ('\'' :: u)
  | char {c : CodePoint} {t u : Text} (h : c ≠ '\'') (rest : Marked t u) : Marked (c :: t) (c :: u)

theorem marked_markQuotes (t : Text) : Marked t (markQuotes t) := by
  induction t using markQuotes.induct with
  | case1 => exact .nil
  | case2 c =>
    by_cases hc : c = '\''
    · subst hc
      exact .single nofun .nil
    · exact .char hc .nil
  | case3 c d t h ih =>
    obtain ⟨rfl, rfl⟩ := h
    exact .pair ih
  | case4 c d t h ih =>
    rw [markQuotes, if_neg h]
    by_cases hc : c = '\''
    · subst hc
      exact .single (fun hd => h ⟨rfl, Option.some.inj hd⟩) ih
    · exact .char hc ih

namespace Marked

variable {t u before after v : Text} {c : CodePoint}

theorem eq_markQuotes (h : Marked t u) : u = markQuotes t := by
  induction h with
  | nil => rfl
  | pair _ ih => rw [markQuotes, if_pos ⟨rfl, rfl⟩, ← ih]
  | @single t u h _ ih =>
    cases t with
    | nil =>
      rw [ih]
      rfl
    | cons d t => rw [markQuotes, if_neg fun hd => h (congrArg some hd.2), ← ih]
  | @char c t u h _ ih =>
    cases t with
    | nil =>
      rw [ih]
      rfl
    | cons d t => rw [markQuotes, if_neg fun hc => h hc.1, ← ih]

/-- Two quotes less are as even or odd as before. -/
theorem even_count (h : Marked t u) :
    Even (u.count (.char '\'')) ↔ Even (t.count (.char '\'')) := by
  induction h with
  | nil => exact Iff.rfl
  | pair _ ih =>
    rw [List.count_cons_self, List.count_cons_self, List.count_cons_of_ne (by decide), ih,
      Nat.even_add_one, Nat.even_add_one, not_not]
  | single _ _ ih =>
    rw [List.count_cons_self, List.count_cons_self, Nat.even_add_one, Nat.even_add_one, ih]
  | char h _ ih => rw [List.count_cons_of_ne h, List.count_cons_of_ne h, ih]

theorem append_cons (h : Marked before u) (hc : c ≠ '\'') (hafter : Marked after v) :
    Marked (before ++ c :: after) (u ++ c :: v) := by
  induction h with
  | nil => exact .char hc hafter
  | pair _ ih => exact .pair ih
  | @single t u h _ ih =>
    refine .single ?_ ih
    cases t with
    | nil => exact fun hd => hc (Option.some.inj hd)
    | cons d t => exact h
  | char h _ ih => exact .char h ih

end Marked

/-- The character stands in the pattern behind a text, and outside quoted text as the pattern is
read: with two quotes marked, as many of the quotes before it have opened quoted text as have closed
it. -/
def StandsOutside (pattern before : Text) (c : CodePoint) : Prop :=
  ∃ after u v, pattern = before ++ c :: after ∧ Marked before u ∧ Marked pattern (u ++ c :: v) ∧
    Even (u.count (.char '\''))

theorem standsOutside_iff {pattern before : Text} {c : CodePoint} (hc : c ≠ '\'') :
    StandsOutside pattern before c ↔
      (∃ after, pattern = before ++ c :: after) ∧ Even (before.count (.char '\'')) := by
  constructor
  · rintro ⟨after, u, v, hpattern, hbefore, -, heven⟩
    exact ⟨⟨after, hpattern⟩, hbefore.even_count.1 heven⟩
  · rintro ⟨⟨after, rfl⟩, heven⟩
    have hbefore := marked_markQuotes before
    exact ⟨after, _, _, rfl, hbefore, hbefore.append_cons hc (marked_markQuotes after),
      hbefore.even_count.2 heven⟩

/-! ## Letters that are no fields -/

/-- A letter that is no letter of a field. -/
def IsUnknown (c : CodePoint) : Prop := Text.isAsciiLetter c = true ∧ isFieldLetter c = false

theorem ne_quote_of_isAsciiLetter {c : CodePoint} (h : Text.isAsciiLetter c = true) : c ≠ '\'' := by
  rintro rfl
  exact absurd h (by decide)

theorem ne_quote_of_isFieldLetter {c : CodePoint} (h : isFieldLetter c = true) : c ≠ '\'' := by
  rintro rfl
  exact absurd h (by decide)

variable {quoted : Bool} {t before after : Text} {c : CodePoint}

theorem unknownLetter?_quote (quoted : Bool) (t : Text) :
    unknownLetter? quoted ('\'' :: t) = unknownLetter? (!quoted) t := rfl

theorem unknownLetter?_of_isUnknown (hc : IsUnknown c) (t : Text) :
    unknownLetter? false (c :: t) = some c := by
  rw [unknownLetter?, if_neg (ne_quote_of_isAsciiLetter hc.1), hc.1, hc.2]
  rfl

theorem unknownLetter?_of_not (hquote : c ≠ '\'') (hc : quoted = false → ¬ IsUnknown c) (t : Text) :
    unknownLetter? quoted (c :: t) = unknownLetter? quoted t := by
  rw [unknownLetter?, if_neg hquote, if_neg]
  intro h
  simp only [Bool.and_eq_true, Bool.not_eq_true'] at h
  exact hc h.1.1 ⟨h.1.2, h.2⟩

/-- The letters tell no difference between a pattern and its marked text: two quotes in a row open
and close, or close and open, and a mark does neither. -/
theorem Marked.unknownLetter?_eq {u : Text} (h : Marked t u) (quoted : Bool) :
    unknownLetter? quoted u = unknownLetter? quoted t := by
  induction h generalizing quoted with
  | nil => rfl
  | pair _ ih =>
    have hmark : ¬ IsUnknown quoteMark := by
      unfold IsUnknown
      decide
    rw [unknownLetter?_of_not (by decide) fun _ => hmark, unknownLetter?_quote,
      unknownLetter?_quote, Bool.not_not, ih]
  | single _ _ ih => exact ih (!quoted)
  | char _ _ ih => rw [unknownLetter?, unknownLetter?, ih, ih]

/-- Behind the text nothing is quoted, if every quote opens or closes quoted text. The flag says
whether the text begins inside quoted text. -/
def IsClosed (quoted : Bool) (t : Text) : Prop := Even (quoted.toNat + t.count (.char '\''))

theorem isClosed_nil_iff : IsClosed quoted [] ↔ quoted = false := by
  cases quoted with
  | false => simp [IsClosed]
  | true => simp [IsClosed]

theorem isClosed_quote_iff : IsClosed quoted ('\'' :: t) ↔ IsClosed (!quoted) t := by
  unfold IsClosed
  rw [List.count_cons_self]
  cases quoted with
  | false => rw [Bool.toNat_false, Bool.not_false, Bool.toNat_true, Nat.zero_add, Nat.add_comm]
  | true =>
    rw [Bool.toNat_true, Bool.not_true, Bool.toNat_false, Nat.zero_add, Nat.add_comm,
      Nat.even_add_one, Nat.even_add_one, not_not]

theorem isClosed_cons_iff (hc : c ≠ '\'') : IsClosed quoted (c :: t) ↔ IsClosed quoted t := by
  unfold IsClosed
  rw [List.count_cons_of_ne hc]

theorem unknownLetter?_append (hnone : unknownLetter? quoted before = none)
    (hclosed : IsClosed quoted before) (hc : IsUnknown c) (after : Text) :
    unknownLetter? quoted (before ++ c :: after) = some c := by
  induction before generalizing quoted with
  | nil =>
    rw [isClosed_nil_iff.1 hclosed]
    exact unknownLetter?_of_isUnknown hc after
  | cons d before ih =>
    by_cases hquote : d = '\''
    · subst hquote
      exact ih hnone (isClosed_quote_iff.1 hclosed)
    · have hd : quoted = false → ¬ IsUnknown d := by
        rintro rfl hd
        rw [unknownLetter?_of_isUnknown hd] at hnone
        cases hnone
      rw [unknownLetter?_of_not hquote hd] at hnone
      rw [List.cons_append, unknownLetter?_of_not hquote hd]
      exact ih hnone ((isClosed_cons_iff hquote).1 hclosed)

/-- What is reported is an unknown letter outside quoted text, behind a text with nothing to
report. -/
theorem exists_of_unknownLetter? (h : unknownLetter? quoted t = some c) :
    ∃ before after, t = before ++ c :: after ∧ unknownLetter? quoted before = none ∧
      IsClosed quoted before ∧ IsUnknown c := by
  induction t generalizing quoted with
  | nil => cases h
  | cons d t ih =>
    by_cases hquote : d = '\''
    · subst hquote
      obtain ⟨before, after, rfl, hnone, hclosed, hc⟩ := ih h
      exact ⟨_ :: before, after, rfl, hnone, isClosed_quote_iff.2 hclosed, hc⟩
    · by_cases hd : quoted = false → ¬ IsUnknown d
      · rw [unknownLetter?_of_not hquote hd] at h
        obtain ⟨before, after, rfl, hnone, hclosed, hc⟩ := ih h
        refine ⟨d :: before, after, rfl, ?_, (isClosed_cons_iff hquote).2 hclosed, hc⟩
        rw [unknownLetter?_of_not hquote hd, hnone]
      · rw [Classical.not_imp, not_not] at hd
        obtain ⟨rfl, hd⟩ := hd
        rw [unknownLetter?_of_isUnknown hd] at h
        cases h
        exact ⟨[], t, rfl, rfl, isClosed_nil_iff.2 rfl, hd⟩

theorem unknownLetter?_eq_none_iff :
    unknownLetter? quoted t = none ↔
      ∀ before c after, t = before ++ c :: after → IsClosed quoted before → ¬ IsUnknown c := by
  constructor
  · rintro hnone before c after rfl hclosed hc
    -- the first letter that is reported may stand before this one
    cases hbefore : unknownLetter? quoted before with
    | none =>
      rw [unknownLetter?_append hbefore hclosed hc] at hnone
      cases hnone
    | some d =>
      obtain ⟨first, rest, rfl, hfirst, hopen, hd⟩ := exists_of_unknownLetter? hbefore
      rw [List.append_assoc, List.cons_append, unknownLetter?_append hfirst hopen hd] at hnone
      cases hnone
  · intro h
    cases hsome : unknownLetter? quoted t with
    | none => rfl
    | some c =>
      obtain ⟨before, after, ht, -, hclosed, hc⟩ := exists_of_unknownLetter? hsome
      exact absurd hc (h before c after ht hclosed)

/-- The first unknown letter outside quoted text as the pattern is read. -/
def IsFirstUnknown (pattern : Text) (c : CodePoint) : Prop :=
  ∃ before, StandsOutside pattern before c ∧ IsUnknown c ∧
    ∀ earlier d, earlier.length < before.length → StandsOutside pattern earlier d → ¬ IsUnknown d

theorem isClosed_false_iff : IsClosed false t ↔ Even (t.count (.char '\'')) := by
  rw [IsClosed, Bool.toNat_false, Nat.zero_add]

theorem unknownLetter?_eq_some_iff {pattern : Text} :
    unknownLetter? false pattern = some c ↔ IsFirstUnknown pattern c := by
  constructor
  · intro h
    obtain ⟨before, after, rfl, hnone, hclosed, hc⟩ := exists_of_unknownLetter? h
    refine ⟨before, ?_, hc, fun earlier d hlt hd hunknown => ?_⟩
    · exact (standsOutside_iff (ne_quote_of_isAsciiLetter hc.1)).2
        ⟨⟨after, rfl⟩, isClosed_false_iff.1 hclosed⟩
    · obtain ⟨⟨rest, hrest⟩, heven⟩ :=
        (standsOutside_iff (ne_quote_of_isAsciiLetter hunknown.1)).1 hd
      have hprefix : earlier ++ [d] <+: before ++ c :: after := by
        refine ⟨rest, ?_⟩
        rw [hrest, List.append_assoc, List.singleton_append]
      have hlength : (earlier ++ [d]).length ≤ before.length := by
        rw [List.length_append]
        exact hlt
      obtain ⟨more, rfl⟩ :=
        List.prefix_of_prefix_length_le hprefix (List.prefix_append _ _) hlength
      exact unknownLetter?_eq_none_iff.1 hnone earlier d more (by simp)
        (isClosed_false_iff.2 heven) hunknown
  · rintro ⟨before, hstands, hc, hfirst⟩
    obtain ⟨⟨after, rfl⟩, heven⟩ := (standsOutside_iff (ne_quote_of_isAsciiLetter hc.1)).1 hstands
    refine unknownLetter?_append ?_ (isClosed_false_iff.2 heven) hc after
    refine unknownLetter?_eq_none_iff.2 fun earlier d more hbefore hclosed hd => ?_
    refine hfirst earlier d (by simp [hbefore]) ?_ hd
    exact (standsOutside_iff (ne_quote_of_isAsciiLetter hd.1)).2
      ⟨⟨more ++ c :: after, by simp [hbefore]⟩, isClosed_false_iff.1 hclosed⟩

theorem exists_unknownLetter?_iff {pattern : Text} :
    (∃ c, unknownLetter? false pattern = some c) ↔
      ∃ before c, StandsOutside pattern before c ∧ IsUnknown c := by
  constructor
  · rintro ⟨c, h⟩
    obtain ⟨before, hstands, hc, -⟩ := unknownLetter?_eq_some_iff.1 h
    exact ⟨before, c, hstands, hc⟩
  · rintro ⟨before, c, hstands, hc⟩
    obtain ⟨⟨after, hpattern⟩, heven⟩ :=
      (standsOutside_iff (ne_quote_of_isAsciiLetter hc.1)).1 hstands
    refine Option.ne_none_iff_exists'.1 fun hnone => ?_
    exact unknownLetter?_eq_none_iff.1 hnone before c after hpattern
      (isClosed_false_iff.2 heven) hc

/-! ## What is written -/

/-- A part of a pattern in which two quotes have been marked. -/
inductive Part where
  | field (letter : CodePoint) (count : Nat)
  /-- A character outside quoted text that is copied, as a mark is. -/
  | plain (c : CodePoint)
  | quoted (body : Text)
  /-- Behind a quote that nothing closes. -/
  | unclosed (body : Text)
  deriving DecidableEq, Repr

/-- How marked text falls into parts. A field has all letters that stand in a row. -/
inductive Divides : Text → List Part → Prop where
  | nil : Divides [] []
  | field {c : CodePoint} {n : Nat} {u : Text} {ps : List Part} (hc : isFieldLetter c = true)
      (hu : u.head? ≠ some c) (rest : Divides u ps) :
      Divides (List.replicate (n + 1) c ++ u) (.field c (n + 1) :: ps)
  | plain {c : CodePoint} {u : Text} {ps : List Part} (hquote : c ≠ '\'')
      (hc : isFieldLetter c = false) (rest : Divides u ps) : Divides (c :: u) (.plain c :: ps)
  | quoted {body u : Text} {ps : List Part} (hbody : .char '\'' ∉ body) (rest : Divides u ps) :
      Divides (.char '\'' :: body ++ .char '\'' :: u) (.quoted body :: ps)
  | unclosed {body : Text} (hbody : .char '\'' ∉ body) : Divides ('\'' :: body) [.unclosed body]

/-- What a part is written as at a time. -/
def Part.Writes (l : Locale) (here : ZonedTime) : Part → Text → Prop
  | .field c n, w => fieldText l here c n = .ok (some w)
  | .plain c, w => w = unmark [c]
  | .quoted body, w => w = unmark body
  | .unclosed _, w => w = []

/-- The text that parts are written as, one behind the other. -/
def Written (l : Locale) (here : ZonedTime) (ps : List Part) (text : Text) : Prop :=
  ∃ ws, List.Forall₂ (Part.Writes l here) ps ws ∧ text = ws.flatten

theorem Divides.cons_letter {u : Text} {ps : List Part} (h : Divides u ps)
    (hc : isFieldLetter c = true) : ∃ qs, Divides (c :: u) qs := by
  by_cases hu : u.head? = some c
  · have hquote := ne_quote_of_isFieldLetter hc
    cases h with
    | nil => cases hu
    | @field d n u ps hd hmax rest =>
      cases hu
      exact ⟨_, .field (n := n + 1) hc hmax rest⟩
    | plain _ hplain _ =>
      cases hu
      rw [hc] at hplain
      cases hplain
    | quoted _ _ => exact absurd (Option.some.inj hu).symm hquote
    | unclosed _ => exact absurd (Option.some.inj hu).symm hquote
  · exact ⟨_, .field (n := 0) hc hu h⟩

theorem exists_divides (u : Text) : ∃ ps, Divides u ps := by
  match u with
  | [] => exact ⟨[], .nil⟩
  | c :: u =>
    by_cases hquote : c = '\''
    · subst hquote
      by_cases hclosed : .char '\'' ∈ u
      · obtain ⟨body, rest, hu, hbody⟩ := List.eq_append_cons_of_mem hclosed
        have hlt : rest.length < u.length := by
          rw [hu, List.length_append, List.length_cons]
          omega
        obtain ⟨ps, hps⟩ := exists_divides rest
        rw [hu]
        exact ⟨_, .quoted hbody hps⟩
      · exact ⟨_, .unclosed hclosed⟩
    · obtain ⟨ps, hps⟩ := exists_divides u
      by_cases hc : isFieldLetter c = true
      · exact hps.cons_letter hc
      · exact ⟨_, .plain hquote (Bool.eq_false_iff.2 hc) hps⟩
termination_by u.length
decreasing_by
  · exact Nat.lt_succ_of_lt hlt
  · exact Nat.lt_succ_self _

/-- The letter of a part that is copied from outside quoted text. -/
def Part.letter? : Part → Option CodePoint
  | .plain c => if Text.isAsciiLetter c then some c else none
  | _ => none

theorem findSome?_letter?_eq_none_iff {ps : List Part} :
    ps.findSome? Part.letter? = none ↔ ∀ c, Part.plain c ∈ ps → Text.isAsciiLetter c = false := by
  rw [List.findSome?_eq_none_iff]
  constructor
  · intro h c hc
    simpa [Part.letter?] using h _ hc
  · intro h p hp
    cases p with
    | plain c => simp [Part.letter?, h c hp]
    | _ => rfl

theorem unknownLetter?_append_of_quoted {body : Text} (hbody : .char '\'' ∉ body) (u : Text) :
    unknownLetter? true (body ++ u) = unknownLetter? true u := by
  induction body with
  | nil => rfl
  | cons c body ih =>
    rw [List.mem_cons, not_or] at hbody
    rw [List.cons_append, unknownLetter?_of_not (Ne.symm hbody.1) (by simp), ih hbody.2]

theorem unknownLetter?_replicate (hc : isFieldLetter c = true) (n : Nat) (u : Text) :
    unknownLetter? quoted (List.replicate n c ++ u) = unknownLetter? quoted u := by
  have hknown : ¬ IsUnknown c := by
    intro hunknown
    rw [hunknown.2] at hc
    cases hc
  induction n with
  | zero => rfl
  | succ n ih =>
    rw [List.replicate_succ, List.cons_append,
      unknownLetter?_of_not (ne_quote_of_isFieldLetter hc) fun _ => hknown, ih]

theorem Divides.unknownLetter?_eq {u : Text} {ps : List Part} (h : Divides u ps) :
    unknownLetter? false u = ps.findSome? Part.letter? := by
  induction h with
  | nil => rfl
  | field hc _ _ ih =>
    rw [unknownLetter?_replicate hc, ih]
    rfl
  | @plain c u ps hquote hc _ ih =>
    rw [List.findSome?_cons, Part.letter?]
    by_cases hletter : Text.isAsciiLetter c = true
    · rw [unknownLetter?_of_isUnknown ⟨hletter, hc⟩, if_pos hletter]
    · rw [unknownLetter?_of_not hquote fun _ hunknown => hletter hunknown.1, if_neg hletter, ih]
  | quoted hbody _ ih =>
    rw [List.cons_append, unknownLetter?_quote, Bool.not_false,
      unknownLetter?_append_of_quoted hbody, unknownLetter?_quote, Bool.not_true, ih]
    rfl
  | unclosed hbody =>
    have hnone := unknownLetter?_append_of_quoted hbody []
    rw [List.append_nil] at hnone
    rw [unknownLetter?_quote, Bool.not_false, hnone]
    rfl

theorem consText_ne_field (w : Text) (ps : DatePattern) (c : CodePoint) (n : Nat)
    (qs : DatePattern) :
    consText w ps ≠ .field c n :: qs := by
  unfold consText
  split
  · nofun
  · nofun

theorem readMarked_some_append {body : Text} (hbody : .char '\'' ∉ body) (read u : Text) :
    readMarked (some read) (body ++ .char '\'' :: u) =
      consText (read.reverse ++ body) (readMarked none u) := by
  induction body generalizing read with
  | nil => rw [List.nil_append, readMarked, if_pos rfl, List.append_nil]
  | cons c body ih =>
    rw [List.mem_cons, not_or] at hbody
    rw [List.cons_append, readMarked, if_neg (Ne.symm hbody.1), ih hbody.2, List.reverse_cons,
      List.append_assoc, List.singleton_append]

theorem readMarked_some_of_not_mem {body : Text} (hbody : .char '\'' ∉ body) (read : Text) :
    readMarked (some read) body = [] := by
  induction body generalizing read with
  | nil => rfl
  | cons c body ih =>
    rw [List.mem_cons, not_or] at hbody
    rw [readMarked, if_neg (Ne.symm hbody.1), ih hbody.2]

theorem readMarked_quoted {body : Text} (hbody : .char '\'' ∉ body) (u : Text) :
    readMarked none (.char '\'' :: body ++ .char '\'' :: u) = consText body (readMarked none u) :=
  readMarked_some_append hbody [] u

theorem readMarked_unclosed {body : Text} (hbody : .char '\'' ∉ body) :
    readMarked none ('\'' :: body) = [] :=
  readMarked_some_of_not_mem hbody []

theorem readMarked_letter (hc : isFieldLetter c = true) (u : Text) :
    readMarked none (c :: u) = consLetter c (readMarked none u) := by
  rw [readMarked, if_neg (ne_quote_of_isFieldLetter hc), if_pos hc]

theorem readMarked_plain (hquote : c ≠ '\'') (hc : isFieldLetter c = false) (u : Text) :
    readMarked none (c :: u) = consText [c] (readMarked none u) := by
  rw [readMarked, if_neg hquote, if_neg (by simp [hc])]

theorem consLetter_of_ne {ps : DatePattern} (h : ∀ n qs, ps ≠ .field c n :: qs) :
    consLetter c ps = .field c 1 :: ps := by
  unfold consLetter
  split
  · rename_i d n qs
    rw [if_neg]
    rintro rfl
    exact h n qs rfl
  · rfl

theorem exists_consLetter_eq (c : CodePoint) (ps : DatePattern) :
    ∃ n qs, consLetter c ps = .field c n :: qs := by
  unfold consLetter
  split
  · split
    · exact ⟨_, _, rfl⟩
    · exact ⟨_, _, rfl⟩
  · exact ⟨_, _, rfl⟩

theorem head?_of_readMarked {u : Text} {n : Nat} {qs : DatePattern}
    (h : readMarked none u = .field c n :: qs) : u.head? = some c := by
  match u with
  | [] => cases h
  | d :: u =>
    by_cases hquote : d = '\''
    · subst hquote
      by_cases hclosed : .char '\'' ∈ u
      · obtain ⟨body, u, rfl, hbody⟩ := List.eq_append_cons_of_mem hclosed
        exact absurd ((readMarked_quoted hbody u).symm.trans h) (consText_ne_field _ _ _ _ _)
      · exact absurd ((readMarked_unclosed hclosed).symm.trans h) nofun
    · by_cases hd : isFieldLetter d = true
      · obtain ⟨m, rest, hcons⟩ := exists_consLetter_eq d (readMarked none u)
        rw [readMarked_letter hd, hcons] at h
        cases h
        rfl
      · rw [readMarked_plain hquote (Bool.eq_false_iff.2 hd)] at h
        exact absurd h (consText_ne_field _ _ _ _ _)

/-- Equal letters make one field, by induction on their number. -/
theorem readMarked_replicate {u : Text} (hc : isFieldLetter c = true) (hu : u.head? ≠ some c)
    (n : Nat) : readMarked none (List.replicate (n + 1) c ++ u) =
      .field c (n + 1) :: readMarked none u := by
  induction n with
  | zero =>
    rw [List.replicate_one, List.singleton_append, readMarked_letter hc]
    exact consLetter_of_ne fun n qs h => hu (head?_of_readMarked h)
  | succ n ih =>
    rw [List.replicate_succ, List.cons_append, readMarked_letter hc, ih, consLetter, if_pos rfl]

section

variable {l : Locale} {here : ZonedTime} {text : Text}

theorem apply_literal_eq_ok_iff {w : Text} {ps : DatePattern} :
    apply l here (.literal w :: ps) = .ok (some text) ↔
      ∃ rest, apply l here ps = .ok (some rest) ∧ text = w ++ rest := by
  rw [apply]
  split
  · rename_i rest h
    simp [h, eq_comm]
  · rename_i h
    constructor
    · intro hok
      exact absurd hok (h text)
    · rintro ⟨rest, hok, -⟩
      exact absurd hok (h rest)

theorem apply_field_eq_ok_iff {n : Nat} {ps : DatePattern} :
    apply l here (.field c n :: ps) = .ok (some text) ↔
      ∃ w rest, fieldText l here c n = .ok (some w) ∧ apply l here ps = .ok (some rest) ∧
        text = w ++ rest := by
  rw [apply]
  split
  · rename_i h
    simp [h]
  · rename_i h
    simp [h]
  · rename_i w h
    -- behind its text the field is a literal
    refine apply_literal_eq_ok_iff.trans ?_
    simp [h]

theorem apply_consText_eq_ok_iff {w : Text} {ps : DatePattern} :
    apply l here (consText w ps) = .ok (some text) ↔
      ∃ rest, apply l here ps = .ok (some rest) ∧ text = unmark w ++ rest := by
  unfold consText
  split
  · simp only [apply_literal_eq_ok_iff]
    constructor
    · rintro ⟨rest, hrest, rfl⟩
      exact ⟨_, ⟨rest, hrest, rfl⟩, List.append_assoc _ _ _⟩
    · rintro ⟨_, ⟨rest, hrest, rfl⟩, rfl⟩
      exact ⟨rest, hrest, (List.append_assoc _ _ _).symm⟩
  · exact apply_literal_eq_ok_iff

theorem written_nil_iff : Written l here [] text ↔ text = [] := by
  simp [Written]

theorem written_cons_iff {p : Part} {ps : List Part} :
    Written l here (p :: ps) text ↔
      ∃ w rest, p.Writes l here w ∧ Written l here ps rest ∧ text = w ++ rest := by
  unfold Written
  constructor
  · rintro ⟨ws, hws, rfl⟩
    obtain ⟨w, vs, hw, hvs, rfl⟩ := List.forall₂_cons_left_iff.1 hws
    exact ⟨w, vs.flatten, hw, ⟨vs, hvs, rfl⟩, rfl⟩
  · rintro ⟨w, _, hw, ⟨ws, hws, rfl⟩, rfl⟩
    exact ⟨w :: ws, .cons hw hws, rfl⟩

theorem apply_readMarked_eq_ok_iff {u : Text} {ps : List Part} (h : Divides u ps) :
    apply l here (readMarked none u) = .ok (some text) ↔ Written l here ps text := by
  induction h generalizing text with
  | nil =>
    rw [written_nil_iff, readMarked, apply]
    simp [eq_comm]
  | field hc hu _ ih =>
    rw [readMarked_replicate hc hu, apply_field_eq_ok_iff, written_cons_iff]
    simp only [ih, Part.Writes]
  | plain hquote hc _ ih =>
    rw [readMarked_plain hquote hc, apply_consText_eq_ok_iff, written_cons_iff]
    simp only [ih, Part.Writes, exists_and_left, exists_eq_left]
  | quoted hbody _ ih =>
    rw [readMarked_quoted hbody, apply_consText_eq_ok_iff, written_cons_iff]
    simp only [ih, Part.Writes, exists_and_left, exists_eq_left]
  | unclosed hbody =>
    rw [readMarked_unclosed hbody, written_cons_iff, apply]
    simp [written_nil_iff, Part.Writes, eq_comm]

end

theorem all_consText (w : Text) (ps : DatePattern) :
    (consText w ps).all hasFieldLength = ps.all hasFieldLength := by
  unfold consText
  split
  · rfl
  · rfl

theorem Divides.all_hasFieldLength_iff {u : Text} {ps : List Part} (h : Divides u ps) :
    (readMarked none u).all hasFieldLength = true ↔
      ∀ c n, Part.field c n ∈ ps → hasFieldLength (.field c n) = true := by
  induction h with
  | nil => simp [readMarked]
  | field hc hu _ ih =>
    rw [readMarked_replicate hc hu, List.all_cons, Bool.and_eq_true, ih]
    simp [or_imp, forall_and]
  | plain hquote hc _ ih =>
    rw [readMarked_plain hquote hc, all_consText, ih]
    simp
  | quoted hbody _ ih =>
    rw [readMarked_quoted hbody, all_consText, ih]
    simp
  | unclosed hbody =>
    rw [readMarked_unclosed hbody]
    simp

/-- The parts of a pattern. -/
def Reads (pattern : Text) (ps : List Part) : Prop := ∃ u, Marked pattern u ∧ Divides u ps

theorem exists_reads (pattern : Text) : ∃ ps, Reads pattern ps := by
  obtain ⟨ps, hps⟩ := exists_divides (markQuotes pattern)
  exact ⟨ps, _, marked_markQuotes pattern, hps⟩

end DatePattern

open DatePattern

/-- A pattern is rejected for its letters iff one that is no field stands outside quoted text as the
pattern is read, and the first such letter is reported. A date with a text is what the parts of its
pattern are written as, and none of the characters copied from outside quoted text is a letter. -/
theorem formatDate_letters (pattern : Text) :
    ((∃ c, unknownLetter? false pattern = some c) ↔
      ∃ before c, StandsOutside pattern before c ∧ IsUnknown c) ∧
    (∀ c, unknownLetter? false pattern = some c ↔ IsFirstUnknown pattern c) ∧
    (∀ m zone locale c,
      formatDate m pattern zone locale = .error (.expansion (.unknownDateLetter c pattern)) ↔
        IsFirstUnknown pattern c) ∧
    (∃ ps, Reads pattern ps) ∧
    ∀ ps, Reads pattern ps → unknownLetter? false pattern = ps.findSome? Part.letter? ∧
      ∀ m zone locale text, formatDate m pattern zone locale = .ok text ↔
        (∀ c, Part.plain c ∈ ps → Text.isAsciiLetter c = false) ∧
        (∀ c n, Part.field c n ∈ ps → hasFieldLength (.field c n) = true) ∧
        ∃ here id id', ZonedTime.ofMoment m zone = .ok here ∧ LocaleId.parse? locale = some id ∧
          Locale.resolve? id = some id' ∧ Written ⟨id'⟩ here ps text := by
  refine ⟨exists_unknownLetter?_iff, fun c => unknownLetter?_eq_some_iff, fun m zone locale c => ?_,
    exists_reads pattern, ?_⟩
  · exact formatDate_eq_unknownDateLetter_iff.trans unknownLetter?_eq_some_iff
  · rintro ps ⟨u, hmarked, hdivides⟩
    have hread : DatePattern.read pattern = readMarked none u := by
      rw [hmarked.eq_markQuotes]
      rfl
    have hreported : unknownLetter? false pattern = ps.findSome? Part.letter? := by
      rw [← hmarked.unknownLetter?_eq, hdivides.unknownLetter?_eq]
    refine ⟨hreported, fun m zone locale text => ?_⟩
    rw [formatDate_eq_ok_iff, show Packages.writeDate = writeDate from rfl, writeDate_eq_some_iff,
      hreported, findSome?_letter?_eq_none_iff, hread, hdivides.all_hasFieldLength_iff]
    simp only [apply_readMarked_eq_ok_iff hdivides]

/-- Two quotes within quoted text are one that is written, in every locale there is. Of three quotes
in a row the last one opens or closes quoted text, so that the letter behind it is reported. -/
theorem formatDate_letters_clock :
    let pattern := "HH 'o''clock'".toText
    let ps := [Part.field 'H' 2, .plain ' ', .quoted ("o".toText ++ quoteMark :: "clock".toText)]
    let m : Moment := ⟨epochClock + 57600000000, some 0⟩
    Reads pattern ps ∧
      (∀ locale, formatDate m pattern Zone.utc locale = .ok "16 o'clock".toText ↔
        ∃ id id', LocaleId.parse? locale = some id ∧ Locale.resolve? id = some id') ∧
      IsFirstUnknown "'''a'''n".toText 'n' ∧
      ∀ locale, formatDate m "'''a'''n".toText Zone.utc locale =
        .error (.expansion (.unknownDateLetter 'n' "'''a'''n".toText)) := by
  intro pattern ps m
  have hbody : .char '\'' ∉ "o".toText ++ quoteMark :: "clock".toText := by decide
  have hdivides : Divides (markQuotes pattern) ps :=
    .field (n := 1) (by decide) (by decide)
      (.plain (by decide) (by decide) (.quoted hbody .nil))
  have hreads : Reads pattern ps := ⟨_, marked_markQuotes pattern, hdivides⟩
  have hfirst : IsFirstUnknown "'''a'''n".toText 'n' :=
    ((formatDate_letters _).2.1 'n').1 (by decide)
  refine ⟨hreads, fun locale => ?_, hfirst,
    fun locale => ((formatDate_letters _).2.2.1 _ _ _ _).2 hfirst⟩
  rw [((formatDate_letters pattern).2.2.2.2 ps hreads).2]
  constructor
  · rintro ⟨-, -, here, id, id', -, hid, hid', -⟩
    exact ⟨id, id', hid, hid'⟩
  · rintro ⟨id, id', hid, hid'⟩
    have hhere : ZonedTime.ofMoment m Zone.utc = .ok ⟨m, false, Zone.utc⟩ := by decide
    have hdigits : padded 2 m.hour = "16".toText := by decide
    have hhour : fieldText ⟨id'⟩ ⟨m, false, Zone.utc⟩ 'H' 2 = .ok (some "16".toText) := by
      rw [← hdigits]
      rfl
    have hblank : Part.Writes ⟨id'⟩ ⟨m, false, Zone.utc⟩ (.plain ' ') " ".toText := rfl
    exact ⟨findSome?_letter?_eq_none_iff.1 (by decide),
      hdivides.all_hasFieldLength_iff.1 (by decide), _, id, id', hhere, hid, hid',
      [_, _, _], .cons hhour (.cons hblank (.cons rfl .nil)), by decide⟩

end BraceTemplate.Calendar
