import BraceTemplate.Proofs.FormatFaults
import BraceTemplate.Proofs.MachineWord
import BraceTemplate.Proofs.ScalarText
import BraceTemplate.Proofs.ValueText

/-!
# BraceTemplate.Proofs.FormatEnds

How formatting ends for each specifier and value: in a text, in a refusal of a specifier that does
not apply to the value, or in a fault (`Printf.format_ends`). There are six ways to a fault
(`Printf.Specifier.Breaks`): a width or a precision that is not read, an integer of too many digits
where it is written in decimal or named in a refusal, a hash code of a text with a surrogate, and
commas in octal or hexadecimal digits.
-/

namespace BraceTemplate

/-- A character, or the code point of one. -/
def Value.IsCharacter (v : Value) : Prop :=
  (∃ c, v = .text [c]) ∨ ∃ i, v = .int i ∧ 0 ≤ i ∧ i < 0x110000

theorem Value.IsCharacter.not_isOverlong {i : Int} (h : (Value.int i).IsCharacter) :
    ¬ Number.IsOverlong i := by
  obtain ⟨c, hc⟩ | ⟨_, ⟨⟩, hi, hlt⟩ := h
  · cases hc
  · have hpow : 0x110000 ≤ 10 ^ Number.maxDigits :=
      le_trans (by decide) (Nat.pow_le_pow_right (by decide) (by decide : 7 ≤ Number.maxDigits))
    unfold Number.IsOverlong
    omega

namespace Printf

/-! ## Specifiers and values -/

/-- What a conversion is for: any value, a character, an integer, or a floating point number in
decimal or in hexadecimal digits. -/
inductive Kind where
  | any
  | character
  | integral
  | floating
  | hexFloat
  deriving DecidableEq

namespace Conversion

def kind : Conversion → Kind
  | boolean => .any
  | hash => .any
  | string => .any
  | character => .character
  | decimal => .integral
  | octal => .integral
  | hexadecimal => .integral
  | scientific => .floating
  | fixed => .floating
  | general => .floating
  | hexFloat => .hexFloat

theorem kind_eq_any_iff {c : Conversion} : c.kind = .any ↔ c = boolean ∨ c = hash ∨ c = string := by
  cases c <;> decide

theorem kind_eq_integral_iff {c : Conversion} : c.kind = .integral ↔ c = decimal ∨ c.IsWord := by
  unfold IsWord
  cases c <;> decide

end Conversion

namespace Specifier

/-- Without a flag, or with the left flag. -/
def IsPlain (s : Specifier) : Prop := s.flag = none ∨ s.flag = some .left

/-- The conversion takes the value, and goes with the specifier's flag and precision. -/
def Applies (s : Specifier) (v : Value) : Prop :=
  match s.conversion.kind with
  | .any => s.IsPlain
  | .character => s.IsPlain ∧ s.precision = none ∧ v.IsCharacter
  | .integral => s.precision = none ∧ ∃ i, v = .int i
  | .floating => ¬ (s.conversion = .general ∧ s.flag = some .alternate) ∧ ∃ x, v = .float x
  | .hexFloat => ∃ x, v = .float x

/-- The text is finished before it is padded. All other numbers are laid out in a field. -/
def PadsText (s : Specifier) : Prop :=
  match s.conversion.kind with
  | .integral => s.flag = some .parenthesis ∨ (s.conversion = .decimal ∧ s.flag = some .comma) ∨
      (s.conversion = .octal ∧ s.flag = some .alternate)
  | .floating => s.flag = some .parenthesis ∨ s.flag = some .comma
  | _ => True

/-- The width is one that can be used. -/
def ReadsWidth (s : Specifier) : Prop :=
  (s.PadsText → IsPaddable s.width) ∧ (¬ s.PadsText → IsReadable maxWidth s.width)

/-- The precision, if there is any and it is used, is one that can be used. -/
def ReadsPrecision (s : Specifier) : Prop :=
  ∀ p ∈ s.precision,
    match s.conversion.kind with
    | .any => p.length ≤ Number.maxDigits
    | .floating =>
      (s.PadsText → Number.digitsValue p ≤ maxPrecision) ∧
        (¬ s.PadsText → IsReadable maxPrecision p)
    | _ => True

/-- The integers of the value are written in decimal. -/
def WritesDecimal (s : Specifier) (v : Value) : Prop :=
  s.conversion = .string ∨ (s.conversion = .hash ∧ ∀ i, v ≠ .int i) ∨ s.conversion = .decimal

/-- The value cannot be written, or cannot be encoded where its hash code is asked for. -/
def CannotWrite (s : Specifier) (v : Value) : Prop :=
  (s.WritesDecimal v ∧ v.IsOverlong) ∨ (s.conversion = .hash ∧ v.IsUnencodable)

/-- Formatting the value ends in a fault. -/
inductive Breaks (s : Specifier) (v : Value) : Prop where
  | width : s.Applies v → ¬ s.ReadsWidth → Breaks s v
  | precision : s.Applies v → ¬ s.ReadsPrecision → Breaks s v
  | digits : s.Applies v → s.WritesDecimal v → v.IsOverlong → Breaks s v
  | encoding : s.Applies v → s.conversion = .hash → v.IsUnencodable → Breaks s v
  | grouping : s.Applies v → s.conversion.IsWord → s.flag = some .comma → Breaks s v
  /-- No code point, and too long to be named in the refusal. -/
  | codePoint {i : Int} : s.conversion = .character → s.IsPlain → v = .int i →
      Number.IsOverlong i → Breaks s v

variable {s : Specifier} {v : Value}

theorem readsWidth_iff_of_padsText (h : s.PadsText) : s.ReadsWidth ↔ IsPaddable s.width := by
  simp [ReadsWidth, h]

theorem readsWidth_iff_of_not_padsText (h : ¬ s.PadsText) :
    s.ReadsWidth ↔ IsReadable maxWidth s.width := by
  simp [ReadsWidth, h]

theorem padsText_iff_of_integral (h : s.conversion.kind = .integral) :
    s.PadsText ↔ s.flag = some .parenthesis ∨ (s.conversion = .decimal ∧ s.flag = some .comma) ∨
      (s.conversion = .octal ∧ s.flag = some .alternate) := by
  rw [PadsText, h]

theorem not_padsText_of_integral (h : s.conversion.kind = .integral)
    (hparenthesis : s.flag ≠ some .parenthesis) (hcomma : s.flag ≠ some .comma)
    (hoctal : ¬ (s.conversion = .octal ∧ s.flag = some .alternate)) : ¬ s.PadsText := by
  rw [padsText_iff_of_integral h]
  rintro (hflag | ⟨-, hflag⟩ | hflag)
  · exact hparenthesis hflag
  · exact hcomma hflag
  · exact hoctal hflag

theorem padsText_iff_of_floating (h : s.conversion.kind = .floating) :
    s.PadsText ↔ s.flag = some .parenthesis ∨ s.flag = some .comma := by
  rw [PadsText, h]

theorem readsPrecision_of_none (h : s.precision = none) : s.ReadsPrecision := by
  simp [ReadsPrecision, h]

theorem kind_of_writesDecimal (h : s.WritesDecimal v) :
    s.conversion.kind = .any ∨ s.conversion.kind = .integral := by
  rcases h with h | ⟨h, -⟩ | h
  · exact .inl (h ▸ rfl)
  · exact .inl (h ▸ rfl)
  · exact .inr (h ▸ rfl)

theorem breaks_iff (ha : s.Applies v) :
    s.Breaks v ↔ s.CannotWrite v ∨ ¬ s.ReadsWidth ∨ ¬ s.ReadsPrecision ∨
      (s.conversion.IsWord ∧ s.flag = some .comma) := by
  constructor
  -- a character that is given is not too long to be named
  · rintro (⟨-, h⟩ | ⟨-, h⟩ | ⟨-, hw, h⟩ | ⟨-, hc, h⟩ | ⟨-, hw, h⟩ | ⟨hc, -, rfl, h⟩)
    · exact .inr (.inl h)
    · exact .inr (.inr (.inl h))
    · exact .inl (.inl ⟨hw, h⟩)
    · exact .inl (.inr ⟨hc, h⟩)
    · exact .inr (.inr (.inr ⟨hw, h⟩))
    · simp only [Applies, hc, Conversion.kind] at ha
      exact absurd h ha.2.2.not_isOverlong
  · rintro ((⟨hw, h⟩ | ⟨hc, h⟩) | h | h | ⟨hw, h⟩)
    · exact .digits ha hw h
    · exact .encoding ha hc h
    · exact .width ha h
    · exact .precision ha h
    · exact .grouping ha hw h

theorem breaks_iff_of_integral (h : s.conversion.kind = .integral) {i : Int}
    (ha : s.Applies (.int i)) :
    s.Breaks (.int i) ↔ (s.conversion = .decimal ∧ Number.IsOverlong i) ∨ ¬ s.ReadsWidth ∨
      (s.conversion.IsWord ∧ s.flag = some .comma) := by
  have hreads : s.ReadsPrecision := by
    simp only [Applies, h] at ha
    exact readsPrecision_of_none ha.1
  have hwrites : s.WritesDecimal (.int i) ↔ s.conversion = .decimal := by
    refine ⟨?_, fun hdecimal => .inr (.inr hdecimal)⟩
    rintro (hstring | ⟨-, hint⟩ | hdecimal)
    · rw [hstring] at h
      cases h
    · exact absurd rfl (hint i)
    · exact hdecimal
  have hwrites : s.CannotWrite (.int i) ↔ s.conversion = .decimal ∧ Number.IsOverlong i := by
    rw [CannotWrite, hwrites, Value.isOverlong_int_iff, or_iff_left]
    rintro ⟨-, t, ⟨⟩, -⟩
  rw [breaks_iff ha, hwrites, or_iff_right (not_not.2 hreads)]

theorem breaks_iff_of_not_integral (h : s.conversion.kind ≠ .integral) (ha : s.Applies v) :
    s.Breaks v ↔ s.CannotWrite v ∨ ¬ s.ReadsWidth ∨ ¬ s.ReadsPrecision := by
  have hword : ¬ (s.conversion.IsWord ∧ s.flag = some .comma) :=
    fun hw => h (Conversion.kind_eq_integral_iff.2 (.inr hw.1))
  rw [breaks_iff ha, or_iff_left hword]

theorem applies_or_of_breaks (h : s.Breaks v) :
    s.Applies v ∨
      s.conversion = .character ∧ s.IsPlain ∧ ∃ i, v = .int i ∧ Number.IsOverlong i := by
  cases h with
  | width ha _ => exact .inl ha
  | precision ha _ => exact .inl ha
  | digits ha _ _ => exact .inl ha
  | encoding ha _ _ => exact .inl ha
  | grouping ha _ _ => exact .inl ha
  | codePoint hc hplain hv hlong => exact .inr ⟨hc, hplain, _, hv, hlong⟩

theorem not_breaks (hc : s.conversion.kind ≠ .character) (ha : ¬ s.Applies v) : ¬ s.Breaks v :=
  fun hb => (applies_or_of_breaks hb).elim ha fun h => hc (h.1 ▸ rfl)

end Specifier

/-! ## Computations that fault under a condition -/

/-- A fault if the condition holds, otherwise a result. -/
def FaultsIff {α : Type} (P : Prop) (r : Except Failure α) : Prop :=
  (P ∧ ∃ f, r = .error (.fault f)) ∨ (¬ P ∧ ∃ a, r = .ok a)

namespace FaultsIff

variable {α : Type} {P Q : Prop}

theorem ok (h : ¬ P) (a : α) : FaultsIff P (.ok a : Except Failure α) := .inr ⟨h, a, rfl⟩

theorem fault (h : P) (f : Fault) : FaultsIff P (.error (.fault f) : Except Failure α) :=
  .inl ⟨h, f, rfl⟩

theorem congr {r : Except Failure α} (h : FaultsIff P r) (hPQ : P ↔ Q) : FaultsIff Q r :=
  propext hPQ ▸ h

end FaultsIff

/-- A computation with a single fault, by the condition under which it has it. -/
theorem error_or_ok {α : Type} {x : Except Fault α} {g : Fault} {P : Prop}
    (h : ∀ {f}, x = .error f ↔ f = g ∧ P) : (P ∧ x = .error g) ∨ (¬ P ∧ ∃ a, x = .ok a) := by
  by_cases hP : P
  · exact .inl ⟨hP, h.2 ⟨rfl, hP⟩⟩
  · cases x with
    | error f => exact absurd (h.1 rfl).2 hP
    | ok a => exact .inr ⟨hP, a, rfl⟩

theorem faultsIff_pad (left : Bool) (width t : Text) :
    FaultsIff (¬ IsPaddable width) (pad left width t) := by
  by_cases h : IsPaddable width
  · exact .inr ⟨not_not.2 h, _, pad_eq_ok h left t⟩
  · exact .inl ⟨h, pad_eq_fault h left t⟩

theorem faultsIff_readAsciiNumber (limit : Nat) (digits : Text) :
    FaultsIff (¬ IsReadable limit digits) (readAsciiNumber limit digits) := by
  by_cases h : IsReadable limit digits
  · exact .inr ⟨not_not.2 h, _, readAsciiNumber_eq_ok h⟩
  · exact .inl ⟨h, _, readAsciiNumber_eq_fault h⟩

variable {s : Specifier}

/-- A finished text is padded. -/
theorem faultsIff_padded (h : s.PadsText) (left : Bool) (t : Text) :
    FaultsIff (¬ s.ReadsWidth) (pad left s.width t) := by
  rw [Specifier.readsWidth_iff_of_padsText h]
  exact faultsIff_pad left s.width t

/-- The width of a field is read, and what follows depends on it. -/
theorem faultsIff_field (h : ¬ s.PadsText) (flag : Option Flag) {P : Prop}
    {k : Nat → Except Failure Text} (hk : ∀ n, FaultsIff P (k n)) :
    FaultsIff (¬ s.ReadsWidth ∨ P)
      (match readAsciiNumber maxWidth (layoutOf flag s.width).2 with
      | .error e => .error e
      | .ok n => k n) := by
  have hzeros : s.ReadsWidth ↔ IsReadable maxWidth (layoutOf flag s.width).2 :=
    (Specifier.readsWidth_iff_of_not_padsText h).trans isReadable_dropWhile_iff.symm
  rw [hzeros]
  obtain ⟨hwidth, f, hread⟩ | ⟨hwidth, n, hread⟩ :=
    faultsIff_readAsciiNumber maxWidth (layoutOf flag s.width).2
  · rw [hread]
    exact .fault (.inl hwidth) f
  · rw [hread, or_iff_right hwidth]
    exact hk n

/-! ## The conversions of every value -/

theorem hashText_eq_error_iff {t : Text} {f : Fault} :
    hashText t = .error f ↔ f = .loneSurrogate ∧ ¬ t.IsScalar := by
  rw [hashText, Codec.Utf16.encode]
  split
  · rename_i h
    simp [h, Except.map]
  · rename_i h
    simp [h, Except.map, eq_comm]

theorem hashValue_eq_error_iff {v : Value} {f : Fault} :
    hashValue v = .error f ↔ (f = .tooManyDigits ∧ (∀ i, v ≠ .int i) ∧ v.IsOverlong) ∨
      (f = .loneSurrogate ∧ v.IsUnencodable) := by
  unfold hashValue
  split
  · refine iff_of_false (by simp) ?_
    rintro (h | ⟨-, t, ⟨⟩, -⟩)
    exact Value.not_isOverlong_of_toText rfl h.2.2
  · refine iff_of_false (by simp) ?_
    rintro (h | ⟨-, t, ⟨⟩, -⟩)
    exact h.2.1 _ rfl
  · refine iff_of_false (by simp) ?_
    rintro (h | ⟨-, t, ⟨⟩, -⟩)
    exact Value.not_isOverlong_of_toText rfl h.2.2
  · rename_i hint _
    rw [and_iff_right hint, ← Value.toText_eq_error_iff]
    cases htext : v.toText with
    | error g =>
      have hv : ¬ v.IsUnencodable := by
        rintro ⟨t, rfl, -⟩
        cases htext
      simp [hv]
    | ok t => simp [hashText_eq_error_iff, Value.isScalar_iff_of_toText htext]

theorem faultsIff_generalValue (h : s.conversion.kind = .any) (raw : Text) (v : Value) :
    FaultsIff (s.CannotWrite v) (generalValue raw s.conversion v) := by
  rcases Conversion.kind_eq_any_iff.1 h with h | h | h
  · have hwrites : ¬ s.CannotWrite v := by simp [Specifier.CannotWrite, Specifier.WritesDecimal, h]
    simp only [h, generalValue]
    split
    all_goals exact .ok hwrites _
  · have hwrites : s.CannotWrite v ↔ ((∀ i, v ≠ .int i) ∧ v.IsOverlong) ∨ v.IsUnencodable := by
      simp [Specifier.CannotWrite, Specifier.WritesDecimal, h]
    simp only [h, hwrites, generalValue]
    split
    · refine .ok ?_ _
      rintro (hlong | ⟨t, ⟨⟩, -⟩)
      exact Value.not_isOverlong_of_toText rfl hlong.2
    · cases hhash : hashValue v with
      | error f =>
        refine .fault ?_ f
        exact (hashValue_eq_error_iff.1 hhash).imp And.right And.right
      | ok n =>
        refine .ok (fun hlong => ?_) _
        have hfault : ∀ f, hashValue v ≠ .error f := fun f hf => by
          rw [hhash] at hf
          cases hf
        rcases hlong with hlong | hlong
        · exact hfault _ (hashValue_eq_error_iff.2 (.inl ⟨rfl, hlong⟩))
        · exact hfault _ (hashValue_eq_error_iff.2 (.inr ⟨rfl, hlong⟩))
  · have hwrites : s.CannotWrite v ↔ v.IsOverlong := by
      simp [Specifier.CannotWrite, Specifier.WritesDecimal, h]
    simp only [h, hwrites, generalValue]
    obtain ⟨hlong, htext⟩ | ⟨hlong, t, htext⟩ := error_or_ok (@Value.toText_eq_error_iff v)
    · rw [htext]
      exact .fault hlong _
    · rw [htext]
      exact .ok hlong _

theorem formatGeneral_of_isPlain (h : s.IsPlain) (raw : Text) (v : Value) :
    formatGeneral raw s v = formatGeneral.body raw s v := by
  unfold formatGeneral
  rcases h with h | h
  · rw [h]
  · simp [h]

theorem formatGeneral_of_not_isPlain (h : ¬ s.IsPlain) (raw : Text) (v : Value) :
    ∃ cause, formatGeneral raw s v = conversionError cause := by
  unfold formatGeneral
  cases hflag : s.flag with
  | none => exact absurd (.inl hflag) h
  | some f =>
    have hleft : f ≠ .left := fun hf => h (.inr (hf ▸ hflag))
    exact ⟨_, if_neg hleft⟩

/-- The value is written, then the precision is read, then the width. -/
theorem faultsIff_body (h : s.conversion.kind = .any) (raw : Text) (v : Value) :
    FaultsIff (s.CannotWrite v ∨ ¬ s.ReadsWidth ∨ ¬ s.ReadsPrecision)
      (formatGeneral.body raw s v) := by
  have hpads : s.PadsText := by simp [Specifier.PadsText, h]
  have hfinish : ∀ t, FaultsIff (¬ s.ReadsWidth) (formatGeneral.finish s t) :=
    fun t => faultsIff_padded hpads _ _
  have hcharacter : s.conversion ≠ .character := by
    intro hcharacter
    rw [hcharacter] at h
    cases h
  unfold formatGeneral.body
  obtain ⟨hlong, f, hvalue⟩ | ⟨hlong, t, hvalue⟩ := faultsIff_generalValue h raw v
  · rw [hvalue]
    exact .fault (.inl hlong) f
  rw [hvalue, or_iff_right hlong]
  simp only
  cases hp : s.precision with
  | none =>
    rw [or_iff_left (not_not.2 (s.readsPrecision_of_none hp))]
    exact hfinish t
  | some p =>
    have hreads : s.ReadsPrecision ↔ p.length ≤ Number.maxDigits := by
      simp [Specifier.ReadsPrecision, hp, h]
    simp only [if_neg hcharacter, Number.readDigits]
    by_cases hlength : p.length ≤ Number.maxDigits
    · rw [if_neg (Nat.not_lt.2 hlength), or_iff_left (not_not.2 (hreads.2 hlength))]
      exact hfinish _
    · rw [if_pos (Nat.lt_of_not_le hlength)]
      exact .fault (.inr (mt hreads.1 hlength)) _

/-! ## Integers -/

theorem faultsIff_integerDigits (h : s.conversion.kind = .integral) (i : Int) :
    FaultsIff (s.conversion = .decimal ∧ Number.IsOverlong i) (integerDigits s i) := by
  rcases Conversion.kind_eq_integral_iff.1 h with hdecimal | hword
  · simp only [integerDigits, hdecimal, true_and]
    obtain ⟨hlong, htext⟩ | ⟨hlong, t, htext⟩ :=
      error_or_ok (@Number.decimalText_eq_error_iff (i.natAbs : Int))
    · rw [htext]
      exact .fault hlong _
    · rw [htext]
      exact .ok hlong _
  · obtain ⟨g, -, hdigits⟩ := exists_integerDigits hword i
    rw [hdigits]
    refine .ok (fun hdecimal => ?_) _
    rcases hword with hword | hword
    · cases hword.symm.trans hdecimal.1
    · cases hword.symm.trans hdecimal.1

/-- The digits are written, then the width is read, unless there are commas in a word. -/
theorem faultsIff_formatInteger (h : s.conversion.kind = .integral) (i : Int) :
    FaultsIff ((s.conversion = .decimal ∧ Number.IsOverlong i) ∨ ¬ s.ReadsWidth ∨
      (s.conversion.IsWord ∧ s.flag = some .comma)) (formatInteger s i) := by
  have hpads := Specifier.padsText_iff_of_integral h
  have hvalue : (s.conversion = .decimal ∧ Number.IsOverlong i) ↔ s.conversion = .decimal ∧
      Number.IsOverlong (if s.conversion = .decimal then i else machineWord i) :=
    and_congr_right fun hdecimal => by rw [if_pos hdecimal]
  rw [hvalue]
  unfold formatInteger
  obtain ⟨hlong, f, hdigits⟩ | ⟨hlong, digits, hdigits⟩ :=
    faultsIff_integerDigits h (if s.conversion = .decimal then i else machineWord i)
  · simp only [hdigits]
    exact .fault (.inl hlong) f
  rw [or_iff_right hlong]
  simp only [hdigits]
  split
  · rename_i hflag
    rw [or_iff_left (by simp [hflag])]
    exact faultsIff_padded (hpads.2 (.inl hflag)) _ _
  · rename_i hflag
    split
    · rename_i hdecimal
      rw [or_iff_left (by simp [hdecimal, Conversion.IsWord])]
      exact faultsIff_padded (hpads.2 (.inr (.inl ⟨hdecimal, hflag⟩))) _ _
    · rename_i hdecimal
      have hword := (Conversion.kind_eq_integral_iff.1 h).resolve_left hdecimal
      exact .fault (.inr ⟨hword, hflag⟩) _
  · rename_i hparenthesis hcomma
    split
    · rename_i halternate
      rw [or_iff_left (by simp [halternate.2])]
      exact faultsIff_padded (hpads.2 (.inr (.inr halternate))) _ _
    · rename_i halternate
      have hfield := Specifier.not_padsText_of_integral h hparenthesis hcomma halternate
      exact faultsIff_field hfield _ fun n => .ok (fun h => hcomma h.2) _

/-! ## Floating point numbers -/

theorem faultsIff_plainPrecision (h : s.conversion.kind = .floating) (hpads : s.PadsText) :
    FaultsIff (¬ s.ReadsPrecision) (formatFloat.plainPrecision s) := by
  unfold formatFloat.plainPrecision
  split
  · rename_i hp
    exact .ok (not_not.2 (s.readsPrecision_of_none hp)) 6
  · rename_i p hp
    have hreads : s.ReadsPrecision ↔ Number.digitsValue p ≤ maxPrecision := by
      simp [Specifier.ReadsPrecision, hp, h, hpads]
    rw [hreads]
    simp only
    split
    · rename_i hlarge
      exact .fault (Nat.not_le.2 hlarge) _
    · rename_i hlarge
      exact .ok (not_not.2 (Nat.le_of_not_lt hlarge)) _

/-- A number that is padded when its digits are written. -/
theorem faultsIff_plain (h : s.conversion.kind = .floating) (hpads : s.PadsText) (left : Bool)
    (t : Nat → Text) :
    FaultsIff (¬ s.ReadsWidth ∨ ¬ s.ReadsPrecision)
      (match formatFloat.plainPrecision s with
      | .error e => .error e
      | .ok p => pad left s.width (t p)) := by
  obtain ⟨hprecision, f, hread⟩ | ⟨hprecision, p, hread⟩ := faultsIff_plainPrecision h hpads
  · rw [hread]
    exact .fault (.inr hprecision) f
  · rw [hread, or_iff_left hprecision]
    exact faultsIff_padded hpads _ _

theorem faultsIff_formatFloat (h : s.conversion.kind = .floating) (x : Number.Binary64) :
    FaultsIff (¬ s.ReadsWidth ∨ ¬ s.ReadsPrecision) (formatFloat s x) := by
  have hpads := Specifier.padsText_iff_of_floating h
  unfold formatFloat
  simp only
  split
  · rename_i hflag
    exact faultsIff_plain h (hpads.2 (.inl hflag)) _ _
  · rename_i hflag
    exact faultsIff_plain h (hpads.2 (.inr hflag)) _ _
  · rename_i hparenthesis hcomma
    have hfield : ¬ s.PadsText := mt hpads.1 (not_or.2 ⟨hparenthesis, hcomma⟩)
    refine faultsIff_field hfield _ fun n => ?_
    split
    · rename_i hp
      exact .ok (not_not.2 (s.readsPrecision_of_none hp)) _
    · rename_i p hp
      have hreads : s.ReadsPrecision ↔ IsReadable maxPrecision p := by
        simp [Specifier.ReadsPrecision, hp, h, hfield]
      rw [hreads]
      obtain ⟨hprecision, f, hread⟩ | ⟨hprecision, n, hread⟩ :=
        faultsIff_readAsciiNumber maxPrecision p
      · rw [hread]
        exact .fault hprecision f
      · rw [hread]
        exact .ok hprecision _

/-! ## All conversions -/

/-- How formatting a value by a specifier ends. -/
inductive Ends (s : Specifier) (v : Value) : Except Failure Text → Prop where
  | text (t : Text) : s.Applies v → ¬ s.Breaks v → Ends s v (.ok t)
  | refusal (cause : ConversionError) :
      ¬ s.Applies v → ¬ s.Breaks v → Ends s v (conversionError cause)
  | fault (f : Fault) : s.Breaks v → Ends s v (.error (.fault f))

namespace Ends

variable {v : Value}

theorem of_applies {r : Except Failure Text} (ha : s.Applies v) (h : FaultsIff (s.Breaks v) r) :
    Ends s v r := by
  obtain ⟨hbreaks, f, rfl⟩ | ⟨hbreaks, t, rfl⟩ := h
  · exact .fault f hbreaks
  · exact .text t ha hbreaks

theorem of_not_applies (hc : s.conversion.kind ≠ .character) (ha : ¬ s.Applies v)
    (cause : ConversionError) : Ends s v (conversionError cause) :=
  .refusal cause ha (s.not_breaks hc ha)

end Ends

theorem ends_general (h : s.conversion.kind = .any) (raw : Text) (v : Value) :
    Ends s v (formatGeneral raw s v) := by
  have happlies : s.Applies v ↔ s.IsPlain := by rw [Specifier.Applies, h]
  by_cases hplain : s.IsPlain
  · have ha := happlies.2 hplain
    rw [formatGeneral_of_isPlain hplain]
    refine .of_applies ha ((faultsIff_body h raw v).congr ?_)
    exact (Specifier.breaks_iff_of_not_integral (by simp [h]) ha).symm
  · obtain ⟨cause, hcause⟩ := formatGeneral_of_not_isPlain hplain raw v
    rw [hcause]
    exact .of_not_applies (by simp [h]) (mt happlies.1 hplain) cause

theorem ends_integer (h : s.conversion.kind = .integral) (raw : Text) (v : Value) :
    Ends s v (formatWith.integer raw s v) := by
  have happlies : s.Applies v ↔ s.precision = none ∧ ∃ i, v = .int i := by
    rw [Specifier.Applies, h]
  unfold formatWith.integer
  split
  · rename_i i
    cases hp : s.precision with
    | some p => exact .of_not_applies (by simp [h]) (by simp [happlies, hp]) _
    | none =>
      have ha := happlies.2 ⟨hp, i, rfl⟩
      refine .of_applies ha ((faultsIff_formatInteger h i).congr ?_)
      exact (Specifier.breaks_iff_of_integral h ha).symm
  · rename_i hint
    exact .of_not_applies (by simp [h]) (fun ha => (happlies.1 ha).2.elim hint) _

theorem ends_float (h : s.conversion.kind = .floating ∨ s.conversion = .hexFloat) (raw : Text)
    (v : Value) : Ends s v (formatWith.float raw s v) := by
  have happlies : s.Applies v ↔ ¬ (s.conversion = .general ∧ s.flag = some .alternate) ∧
      ∃ x, v = .float x := by
    unfold Specifier.Applies
    rcases h with h | h
    · rw [h]
    · simp [h, Conversion.kind]
  have hkind : s.conversion.kind ≠ .any ∧ s.conversion.kind ≠ .integral ∧
      s.conversion.kind ≠ .character := by
    rcases h with h | h
    · simp [h]
    · simp [h, Conversion.kind]
  unfold formatWith.float
  split
  · rename_i x
    split
    · rename_i halternate
      exact .of_not_applies hkind.2.2 (fun ha => (happlies.1 ha).1 halternate) _
    · rename_i halternate
      have ha := happlies.2 ⟨halternate, x, rfl⟩
      have hwrites : ¬ s.CannotWrite (.float x) := by
        rintro (hw | ⟨-, t, ⟨⟩, -⟩)
        exact (s.kind_of_writesDecimal hw.1).elim hkind.1 hkind.2.1
      refine .of_applies ha ?_
      rw [Specifier.breaks_iff_of_not_integral hkind.2.1 ha, or_iff_right hwrites]
      split
      · rename_i hhex
        have hpads : s.PadsText := by simp [Specifier.PadsText, hhex, Conversion.kind]
        have hreads : s.ReadsPrecision := by simp [Specifier.ReadsPrecision, hhex, Conversion.kind]
        rw [or_iff_left (not_not.2 hreads)]
        exact faultsIff_padded hpads _ _
      · rename_i hhex
        exact faultsIff_formatFloat (h.resolve_right hhex) x
  · rename_i hfloat
    exact .of_not_applies hkind.2.2 (fun ha => (happlies.1 ha).2.elim hfloat) _

/-- A character is given, or the value is refused, with a fault if it is too long to be named. -/
theorem characterText_ends (raw : Text) (v : Value) :
    (v.IsCharacter ∧ ∃ t, characterText raw v = .ok t) ∨
      (¬ v.IsCharacter ∧ (∀ i, v = .int i → ¬ Number.IsOverlong i) ∧
        ∃ cause, characterText raw v = conversionError cause) ∨
      ∃ i f, v = .int i ∧ Number.IsOverlong i ∧ characterText raw v = .error (.fault f) := by
  unfold characterText
  split
  · exact .inl ⟨.inl ⟨_, rfl⟩, _, rfl⟩
  · rename_i i
    split
    · rename_i hi
      exact .inl ⟨.inr ⟨i, rfl, hi⟩, _, rfl⟩
    · rename_i hi
      refine .inr ?_
      obtain ⟨hlong, htext⟩ | ⟨hlong, t, htext⟩ := error_or_ok (@Number.decimalText_eq_error_iff i)
      · exact .inr ⟨i, _, rfl, hlong, by rw [htext]⟩
      · refine .inl ⟨?_, ?_, _, by rw [htext]⟩
        · rintro (⟨c, hv⟩ | ⟨_, ⟨⟩, hcode⟩)
          · cases hv
          · exact hi hcode
        · rintro _ ⟨⟩
          exact hlong
  · rename_i htext hint
    refine .inr (.inl ⟨?_, fun i hv => absurd hv (hint i), _, rfl⟩)
    rintro (⟨c, hv⟩ | ⟨i, hv, -⟩)
    · exact htext c hv
    · exact hint i hv

theorem ends_character (h : s.conversion = .character) (raw : Text) (v : Value) :
    Ends s v (formatGeneral raw s v) := by
  have happlies : s.Applies v ↔ s.IsPlain ∧ s.precision = none ∧ v.IsCharacter := by
    simp [Specifier.Applies, h, Conversion.kind]
  by_cases hplain : s.IsPlain
  · rw [formatGeneral_of_isPlain hplain, formatGeneral.body, h]
    simp only [generalValue]
    obtain ⟨hv, t, ht⟩ | ⟨hv, hlong, cause, hcause⟩ | ⟨i, f, hv, hlong, hf⟩ :=
      characterText_ends raw v
    · rw [ht]
      cases hp : s.precision with
      | none =>
        have ha := happlies.2 ⟨hplain, hp, hv⟩
        have hpads : s.PadsText := by simp [Specifier.PadsText, h, Conversion.kind]
        have hwrites : ¬ s.CannotWrite v := by
          simp [Specifier.CannotWrite, Specifier.WritesDecimal, h]
        refine .of_applies ha ((faultsIff_padded hpads _ _).congr ?_)
        rw [Specifier.breaks_iff_of_not_integral (by simp [h, Conversion.kind]) ha,
          or_iff_right hwrites, or_iff_left (not_not.2 (s.readsPrecision_of_none hp))]
      | some p =>
        have ha : ¬ s.Applies v := by simp [happlies, hp]
        refine .refusal _ ha fun hb => ?_
        obtain ⟨-, -, i, rfl, hlong⟩ := (Specifier.applies_or_of_breaks hb).resolve_left ha
        exact hv.not_isOverlong hlong
    · rw [hcause]
      have ha : ¬ s.Applies v := fun ha => hv (happlies.1 ha).2.2
      refine .refusal cause ha fun hb => ?_
      obtain ⟨-, -, i, hi, hi'⟩ := (Specifier.applies_or_of_breaks hb).resolve_left ha
      exact hlong i hi hi'
    · rw [hf]
      exact .fault f (.codePoint h hplain hv hlong)
  · obtain ⟨cause, hcause⟩ := formatGeneral_of_not_isPlain hplain raw v
    rw [hcause]
    have ha : ¬ s.Applies v := fun ha => hplain (happlies.1 ha).1
    exact .refusal cause ha fun hb =>
      hplain ((Specifier.applies_or_of_breaks hb).resolve_left ha).2.1

theorem ends_formatWith (raw : Text) (s : Specifier) (v : Value) :
    Ends s v (formatWith raw s v) := by
  unfold formatWith
  split
  · rename_i h
    exact ends_integer (h ▸ rfl) raw v
  · rename_i h
    exact ends_integer (h ▸ rfl) raw v
  · rename_i h
    exact ends_integer (h ▸ rfl) raw v
  · rename_i h
    exact ends_float (.inl (h ▸ rfl)) raw v
  · rename_i h
    exact ends_float (.inl (h ▸ rfl)) raw v
  · rename_i h
    exact ends_float (.inl (h ▸ rfl)) raw v
  · rename_i h
    exact ends_float (.inr h) raw v
  · cases h : s.conversion with
    | boolean => exact ends_general (h ▸ rfl) raw v
    | hash => exact ends_general (h ▸ rfl) raw v
    | string => exact ends_general (h ▸ rfl) raw v
    | character => exact ends_character h raw v
    | _ => contradiction

/-- Formatting ends in a text where the specifier applies to the value, and in a refusal where it
cannot be parsed or does not apply; but in a fault in the six cases of `Specifier.Breaks`, and in
no others. -/
theorem format_ends (spec : Text) (v : Value) :
    ((∃ t, format spec v = .ok t) ↔
      ∃ s, Specifier.parse? spec = some s ∧ s.Applies v ∧ ¬ s.Breaks v) ∧
    ((∃ cause, format spec v = .error (.expansion (.conversion cause))) ↔
      ∀ s, Specifier.parse? spec = some s → ¬ s.Applies v ∧ ¬ s.Breaks v) ∧
    ((∃ f, format spec v = .error (.fault f)) ↔
      ∃ s, Specifier.parse? spec = some s ∧ s.Breaks v) := by
  unfold format
  cases hparse : Specifier.parse? spec with
  | none => simp [conversionError]
  | some s =>
    have hends := ends_formatWith spec s v
    simp only
    generalize formatWith spec s v = r at hends
    cases hends with
    | text t ha hb => simp [ha, hb]
    | refusal cause ha hb => simp [conversionError, ha, hb]
    | fault f hb => simp [hb]

/-- A sign is written before digits, but not before a text that is no number; a width in digits of
another script is not read. -/
theorem format_ends_decimal :
    (∃ t, format "%+d".toText (.int 5) = .ok t) ∧
      (∃ cause, format "%+d".toText (.text ['5']) = .error (.expansion (.conversion cause))) ∧
      ∃ f, format "%٥d".toText (.int 5) = .error (.fault f) := by
  have hsign : Specifier.parse? "%+d".toText = some ⟨some .plus, [], none, 'd', .decimal⟩ := by
    decide
  have hwide : Specifier.parse? "%٥d".toText = some ⟨none, ['٥'], none, 'd', .decimal⟩ := by
    decide +kernel
  have happlies : Specifier.Applies ⟨some .plus, [], none, 'd', .decimal⟩ (.int 5) :=
    ⟨rfl, 5, rfl⟩
  refine ⟨(format_ends _ _).1.2 ⟨_, hsign, happlies, ?_⟩, (format_ends _ _).2.1.2 ?_,
    (format_ends _ _).2.2.2 ⟨_, hwide, .width ⟨rfl, 5, rfl⟩ ?_⟩⟩
  · rw [Specifier.breaks_iff_of_integral rfl happlies]
    rintro (⟨-, hlong⟩ | hwidth | ⟨-, hcomma⟩)
    · exact Value.IsCharacter.not_isOverlong (.inr ⟨5, rfl, by decide⟩) hlong
    · have hempty : IsReadable maxWidth [] := ⟨List.forall_mem_nil _, by decide⟩
      exact hwidth ⟨fun _ => ⟨by decide, hempty.2⟩, fun _ => hempty⟩
    · cases hcomma
  · intro s hs
    cases hsign.symm.trans hs
    have hint : ¬ Specifier.Applies ⟨some .plus, [], none, 'd', .decimal⟩ (.text ['5']) := by
      rintro ⟨-, i, ⟨⟩⟩
    exact ⟨hint, Specifier.not_breaks (by decide) hint⟩
  · intro hwidth
    have hfield : ¬ Specifier.PadsText ⟨none, ['٥'], none, 'd', .decimal⟩ := by
      rintro (h | ⟨-, h⟩ | ⟨h, -⟩)
      · cases h
      · cases h
      · cases h
    exact absurd ((hwidth.2 hfield).1 '٥' (by decide)) (by decide)

/-- Commas do not go with octal digits, and no refusal says so. -/
theorem format_grouped_octal :
    format "%,o".toText (.int 8) = .error (.fault .groupingNotAllowed) ∧
      ¬ ∀ (spec : Text) (v : Value), (∃ t, format spec v = .ok t) ∨
        ∃ cause, format spec v = .error (.expansion (.conversion cause)) := by
  have hformat : format "%,o".toText (.int 8) = .error (.fault .groupingNotAllowed) := by decide
  refine ⟨hformat, fun h => ?_⟩
  rcases h "%,o".toText (.int 8) with ⟨t, ht⟩ | ⟨cause, hcause⟩
  · cases hformat.symm.trans ht
  · cases hformat.symm.trans hcause

end Printf

end BraceTemplate
