import BraceTemplate.Value
import Mathlib.Data.List.Basic

/-!
# BraceTemplate.Proofs.ScalarText

Texts without surrogates. What the program writes of its own accord has none, and a surrogate in a
quoted text is escaped; so a value has one in its text only if it is a text with one
(`Value.isScalar_iff_of_toText`).
-/

namespace BraceTemplate

namespace Text

variable {s t : Text} {c : CodePoint} {n : Nat}

@[simp] theorem isScalar_nil : IsScalar [] := List.forall_mem_nil _

@[simp] theorem isScalar_cons : IsScalar (c :: t) ↔ c.isSurrogate = false ∧ t.IsScalar :=
  List.forall_mem_cons

@[simp] theorem isScalar_append : IsScalar (s ++ t) ↔ s.IsScalar ∧ t.IsScalar :=
  List.forall_mem_append

@[simp] theorem isScalar_reverse : IsScalar t.reverse ↔ t.IsScalar := by simp [IsScalar]

@[simp] theorem isScalar_ofChars (cs : List Char) : (ofChars cs).IsScalar := by
  intro c hc
  obtain ⟨d, -, rfl⟩ := List.mem_map.1 hc
  rfl

@[simp] theorem isScalar_digits (base n : Nat) : (digits base n).IsScalar := isScalar_ofChars _

theorem IsScalar.subset (h : t.IsScalar) (hs : s ⊆ t) : s.IsScalar := fun c hc => h c (hs hc)

theorem IsScalar.take (h : t.IsScalar) (n : Nat) : IsScalar (t.take n) :=
  h.subset (List.take_subset n t)

theorem IsScalar.drop (h : t.IsScalar) (n : Nat) : IsScalar (t.drop n) :=
  h.subset (List.drop_subset n t)

@[simp] theorem isScalar_replicate (c : Char) (n : Nat) :
    IsScalar (List.replicate n (.char c)) := by
  intro d hd
  rw [List.eq_of_mem_replicate hd]
  rfl

theorem isScalar_flatMap {α : Type} {as : List α} {f : α → Text} (h : ∀ a ∈ as, (f a).IsScalar) :
    IsScalar (as.flatMap f) := by
  intro c hc
  obtain ⟨a, ha, hmem⟩ := List.mem_flatMap.1 hc
  exact h a ha c hmem

theorem isScalar_join {sep : Text} {ts : List Text} (hsep : sep.IsScalar)
    (h : ∀ t ∈ ts, t.IsScalar) : (join sep ts).IsScalar := by
  induction ts with
  | nil => exact isScalar_nil
  | cons t ts ih =>
    rw [List.forall_mem_cons] at h
    cases ts with
    | nil => exact h.1
    | cons u us => exact isScalar_append.2 ⟨isScalar_append.2 ⟨h.1, hsep⟩, ih h.2⟩

/-! ## Quoted texts -/

@[simp] theorem isScalar_hexDigits (width n : Nat) : (hexDigits width n).IsScalar :=
  isScalar_append.2 ⟨isScalar_replicate '0' _, isScalar_digits 16 n⟩

theorem isSurrogate_of_isPrintable (h : isPrintable c = true) : c.isSurrogate = false := by
  cases c with
  | char c => rfl
  | surrogate k => cases h

theorem isScalar_quoteChar {quote : CodePoint} (hquote : quote.isSurrogate = false)
    (c : CodePoint) : (quoteChar quote c).IsScalar := by
  have hescape : ∀ letter : Char, ∀ width, IsScalar ('\\' :: letter :: hexDigits width c.toNat) :=
    fun letter width => by simp
  rw [quoteChar]
  split
  · rename_i h
    rcases h with rfl | rfl
    · exact isScalar_cons.2 ⟨rfl, isScalar_cons.2 ⟨hquote, isScalar_nil⟩⟩
    · decide
  split
  · decide
  split
  · decide
  split
  · decide
  split
  · rename_i h
    exact isScalar_cons.2 ⟨isSurrogate_of_isPrintable h, isScalar_nil⟩
  split
  · exact hescape 'x' 2
  split
  · exact hescape 'u' 4
  · exact hescape 'U' 8

theorem isSurrogate_quoteFor (t : Text) : (quoteFor t).isSurrogate = false := by
  rw [quoteFor]
  split
  · rfl
  · rfl

@[simp] theorem isScalar_quoted (t : Text) : (quoted t).IsScalar := by
  have hquote := isSurrogate_quoteFor t
  simp [quoted, hquote, isScalar_flatMap fun c _ => isScalar_quoteChar hquote c]

@[simp] theorem isScalar_quotedOctets (octets : List Nat) : (quotedOctets octets).IsScalar := by
  have hquote := isSurrogate_quoteFor (octets.map CodePoint.ofNat)
  have hoctet : ∀ n ∈ octets, IsScalar (if n < 127 then
      quoteChar (quoteFor (octets.map CodePoint.ofNat)) (CodePoint.ofNat n)
      else '\\' :: 'x' :: hexDigits 2 n) := by
    intro n _
    split
    · exact isScalar_quoteChar hquote _
    · simp
  simp [quotedOctets, hquote, isScalar_flatMap hoctet]

end Text

/-! ## Numbers and dates -/

namespace Number

open Text

@[simp] theorem isScalar_natText (n : Nat) : (natText n).IsScalar := isScalar_digits 10 n

@[simp] theorem isScalar_intText (i : Int) : (intText i).IsScalar := by
  rw [intText]
  split
  · simp
  · simp

theorem isScalar_decimalText {i : Int} {t : Text} (h : decimalText i = .ok t) : t.IsScalar := by
  simp only [decimalText] at h
  split at h
  · cases h
  · cases h
    split
    · simp
    · simp

@[simp] theorem isScalar_twoDigits (n : Nat) : (twoDigits n).IsScalar := by
  rw [twoDigits]
  split
  · simp
  · simp

@[simp] theorem isScalar_zeroPad {width : Nat} {t : Text} :
    (zeroPad width t).IsScalar ↔ t.IsScalar := by
  rw [zeroPad, isScalar_append]
  exact and_iff_right (isScalar_replicate '0' _)

@[simp] theorem isScalar_fixedText (num den places : Nat) (keepPoint : Bool) :
    (fixedText num den places keepPoint).IsScalar := by
  have hdigits : ∀ n, (zeroPad (places + 1) (natText n)).IsScalar := by simp
  rw [fixedText, insertPoint]
  refine isScalar_append.2 ⟨(hdigits _).take _, ?_⟩
  split
  · split
    · simp
    · simp
  · exact isScalar_cons.2 ⟨CodePoint.isSurrogate_char _, (hdigits _).drop _⟩

theorem isScalar_scientificDigits {digits : Text} (h : digits.IsScalar) (e : Int)
    (keepPoint : Bool) : (scientificDigits digits e keepPoint).IsScalar := by
  have hexponent : (exponentText e).IsScalar := by
    rw [exponentText]
    split
    · simp
    · simp
  have hpart : IsScalar (if digits.length > 1 then .char '.' :: digits.drop 1
      else if keepPoint then ['.'] else []) := by
    split
    · exact isScalar_cons.2 ⟨CodePoint.isSurrogate_char _, h.drop 1⟩
    · split
      · decide
      · decide
  exact isScalar_append.2 ⟨isScalar_append.2 ⟨h.take 1, hpart⟩, hexponent⟩

namespace Binary64

theorem isScalar_shortestDigits (x : Binary64) : (shortestDigits x).1.IsScalar := by
  simp only [shortestDigits, isScalar_reverse]
  exact (isScalar_reverse.2 (isScalar_natText _)).subset (List.dropWhile_subset _)

@[simp] theorem isScalar_text (x : Binary64) : (text x).IsScalar := by
  have hdigits := x.isScalar_shortestDigits
  have hsign : IsScalar (if x.negative then ['-'] else []) := by
    split
    · decide
    · decide
  rw [text]
  split
  · decide
  simp only
  split
  · simp [hsign]
  split
  · simp [hsign]
  generalize x.shortestDigits = r at hdigits
  refine isScalar_append.2 ⟨hsign, ?_⟩
  split
  · split
    · simp [hdigits]
    · split
      · simp [hdigits]
      · simp [hdigits.take, hdigits.drop]
  · exact isScalar_scientificDigits hdigits _ _

end Binary64

end Number

namespace Calendar

open Text

@[simp] theorem Date.isScalar_text (d : Date) : d.text.IsScalar := by simp [Date.text]

theorem Moment.isScalar_offsetText (offset : Int) : (offsetText offset).IsScalar := by
  simp only [offsetText]
  repeat' split
  all_goals simp

theorem Moment.isScalar_text {separator : CodePoint} (h : separator.isSurrogate = false)
    (m : Moment) : (m.text separator).IsScalar := by
  simp only [text]
  repeat' split
  all_goals simp [h, isScalar_offsetText]

end Calendar

/-! ## Values -/

namespace Value

open Text

theorem isScalar_boolText (b : Bool) : (boolText b).IsScalar := by
  cases b with
  | false => decide
  | true => decide

theorem isScalar_items {ts : List Text} (h : ∀ t ∈ ts, t.IsScalar) :
    (join [.char ',', .char ' '] ts).IsScalar :=
  isScalar_join (by decide) h

theorem isScalar_callText {name : String} {arguments : List Text}
    (h : ∀ t ∈ arguments, t.IsScalar) : (callText name arguments).IsScalar := by
  simp [callText, isScalar_items h]

theorem isScalar_dateLiteral (d : Calendar.Date) : (dateLiteral d).IsScalar :=
  isScalar_callText (by simp)

theorem isScalar_offsetLiteral (offset : Int) : (offsetLiteral offset).IsScalar := by
  have hpart : ∀ (name : String) (n : Int),
      ∀ t ∈ (if n = 0 then [] else [name.toText ++ Number.intText n]), t.IsScalar := by
    intro name n
    split
    · simp
    · simp
  rw [offsetLiteral]
  split
  · simp
  · refine isScalar_callText (List.forall_mem_singleton.2 (isScalar_callText ?_))
    simp only [List.forall_mem_append]
    exact ⟨⟨hpart _ _, hpart _ _⟩, hpart _ _⟩

theorem isScalar_momentLiteral (m : Calendar.Moment) : (momentLiteral m).IsScalar := by
  refine isScalar_callText (List.forall_mem_append.2 ⟨fun t ht => ?_, ?_⟩)
  · obtain ⟨n, -, rfl⟩ := List.mem_map.1 ht
    exact Number.isScalar_natText n
  split
  · simp
  · simp [isScalar_offsetLiteral]

mutual

theorem isScalar_of_literal : ∀ {v : Value} {t : Text}, literal v = .ok t → t.IsScalar
  | none, t, h => by
    cases h
    decide
  | bool b, t, h => by
    cases h
    exact isScalar_boolText b
  | int i, t, h => Number.isScalar_decimalText h
  | float x, t, h => by
    cases h
    exact x.isScalar_text
  | text u, t, h => by
    cases h
    exact isScalar_quoted u
  | moment m, t, h => by
    cases h
    exact isScalar_momentLiteral m
  | date d, t, h => by
    cases h
    exact isScalar_dateLiteral d
  | octets bytes, t, h => by
    cases h
    exact isScalar_quotedOctets bytes
  | list items, t, h => by
    rw [literal] at h
    split at h
    · cases h
    · rename_i hitems
      cases h
      simp [isScalar_items (isScalar_of_literals hitems)]
  | tuple items, t, h => by
    rw [literal] at h
    split at h
    · cases h
    · rename_i hitems
      cases h
      split
      · simp [isScalar_items (isScalar_of_literals hitems)]
      · simp [isScalar_items (isScalar_of_literals hitems)]
  | set items, t, h => by
    rw [literal] at h
    split at h
    · cases h
    · rename_i hitems
      cases h
      split
      · decide
      · simp [isScalar_items (isScalar_of_literals hitems)]
  | dict entries, t, h => by
    rw [literal] at h
    split at h
    · cases h
    · rename_i hentries
      cases h
      simp [isScalar_items (isScalar_of_entryLiterals hentries)]

theorem isScalar_of_literals :
    ∀ {vs : List Value} {ts : List Text}, literals vs = .ok ts → ∀ t ∈ ts, t.IsScalar
  | [], ts, h => by
    cases h
    exact List.forall_mem_nil _
  | v :: vs, ts, h => by
    rw [literals] at h
    split at h
    · cases h
    · rename_i hv
      split at h
      · cases h
      · rename_i hvs
        cases h
        exact List.forall_mem_cons.2 ⟨isScalar_of_literal hv, isScalar_of_literals hvs⟩

theorem isScalar_of_entryLiterals :
    ∀ {es : List (Value × Value)} {ts : List Text}, entryLiterals es = .ok ts →
      ∀ t ∈ ts, t.IsScalar
  | [], ts, h => by
    cases h
    exact List.forall_mem_nil _
  | (k, v) :: es, ts, h => by
    rw [entryLiterals] at h
    split at h
    · cases h
    · rename_i hk
      split at h
      · cases h
      · rename_i hv
        split at h
        · cases h
        · rename_i hes
          cases h
          have hentry := isScalar_of_literal hk
          have hvalue := isScalar_of_literal hv
          exact List.forall_mem_cons.2
            ⟨by simp [hentry, hvalue], isScalar_of_entryLiterals hes⟩

end

/-- A text with a surrogate in it. -/
def IsUnencodable (v : Value) : Prop := ∃ t, v = .text t ∧ ¬ t.IsScalar

theorem isScalar_iff_of_toText {v : Value} {t : Text} (h : v.toText = .ok t) :
    t.IsScalar ↔ ¬ v.IsUnencodable := by
  constructor
  · rintro ht ⟨u, rfl, hu⟩
    cases h
    exact hu ht
  · intro hv
    cases v with
    | none =>
      cases h
      exact isScalar_nil
    | text u =>
      cases h
      exact Decidable.not_not.1 fun ht => hv ⟨t, rfl, ht⟩
    | moment m =>
      cases h
      exact Calendar.Moment.isScalar_text (CodePoint.isSurrogate_char _) m
    | date d =>
      cases h
      exact d.isScalar_text
    | _ => exact isScalar_of_literal h

end Value

end BraceTemplate
