import BraceTemplate.Proofs.IntegerField

/-!
# BraceTemplate.Proofs.NumberField

The flags of numbers. A decimal integer and a finite floating point number are written in the same
way: a sign or a parenthesis, and digits that depend neither on the sign nor on the field
(`Printf.format_number_eq_ok_iff`). So no flag is lost, whatever the conversion and the width
(`Printf.format_number_flags`).
-/

namespace BraceTemplate

/-! ## Texts of numbers -/

namespace Text

/-- A digit in front, and no space. -/
structure IsNumeral (t : Text) : Prop where
  head : ∃ d ds, t = d :: ds ∧ isAsciiDigit d = true
  blank : .char ' ' ∉ t

namespace IsNumeral

variable {t u : Text}

theorem of_digits (hne : t ≠ []) (h : ∀ c ∈ t, isAsciiDigit c = true) : IsNumeral t := by
  obtain ⟨d, ds, rfl⟩ := List.exists_cons_of_ne_nil hne
  exact ⟨⟨d, ds, rfl, h d List.mem_cons_self⟩, fun hblank => absurd (h ' ' hblank) (by decide)⟩

theorem append (ht : IsNumeral t) (hu : .char ' ' ∉ u) : IsNumeral (t ++ u) := by
  obtain ⟨d, ds, rfl, hd⟩ := ht.head
  exact ⟨⟨d, ds ++ u, rfl, hd⟩, fun h => (List.mem_append.1 h).elim ht.blank hu⟩

theorem take (ht : IsNumeral t) {n : Nat} (hn : 0 < n) : IsNumeral (t.take n) := by
  obtain ⟨d, ds, rfl, hd⟩ := ht.head
  obtain ⟨m, rfl⟩ : ∃ m, n = m + 1 := ⟨n - 1, by omega⟩
  exact ⟨⟨d, ds.take m, rfl, hd⟩, fun h => ht.blank (List.mem_of_mem_take h)⟩

theorem blank_drop (ht : IsNumeral t) (n : Nat) : .char ' ' ∉ t.drop n :=
  fun h => ht.blank (List.mem_of_mem_drop h)

theorem toUpper_eq_or (c : CodePoint) :
    c.toUpper = c ∨ 97 ≤ c.toNat ∧ c.toUpper.toNat + 32 = c.toNat := by
  cases c with
  | surrogate k => exact .inl rfl
  | char c =>
    simp only [CodePoint.toUpper_char, CodePoint.toNat_char]
    unfold Char.toUpper
    split
    · rename_i hc
      right
      have hfirst : 97 ≤ c.val.toNat := hc.1
      have hlast : c.val.toNat ≤ 122 := hc.2
      have hdown : ('A'.val - 'a'.val).toNat = 2 ^ 32 - 32 := rfl
      refine ⟨hfirst, ?_⟩
      show (c.val + ('A'.val - 'a'.val)).toNat + 32 = c.val.toNat
      rw [UInt32.toNat_add, hdown]
      omega
    · exact .inl rfl

theorem map_toUpper (ht : IsNumeral t) : IsNumeral (t.map CodePoint.toUpper) := by
  obtain ⟨d, ds, rfl, hd⟩ := ht.head
  refine ⟨⟨d.toUpper, ds.map CodePoint.toUpper, rfl, ?_⟩, ?_⟩
  · have hbounds := isAsciiDigit_iff.1 hd
    rcases toUpper_eq_or d with h | h
    · rw [h, hd]
    · omega
  · intro h
    obtain ⟨c, hc, hupper⟩ := List.mem_map.1 h
    rcases toUpper_eq_or c with hsame | ⟨hle, hnat⟩
    · rw [hsame] at hupper
      exact ht.blank (hupper ▸ hc)
    · have hspace : (CodePoint.char ' ').toNat = 32 := rfl
      rw [hupper] at hnat
      omega

end IsNumeral

end Text

namespace Number

open Text (IsNumeral)

theorem isNumeral_natText (n : Nat) : IsNumeral (natText n) :=
  .of_digits Text.digits_ne_nil fun _ hc => isAsciiDigit_of_mem_natText hc

theorem isNumeral_zeroPad {t : Text} (ht : IsNumeral t) (width : Nat) :
    IsNumeral (zeroPad width t) := by
  unfold zeroPad
  cases width - t.length with
  | zero => exact ht
  | succ k => exact ⟨⟨'0', _, rfl, by decide⟩, by simpa using ht.blank⟩

theorem isNumeral_insertPoint (n places : Nat) (keepPoint : Bool) :
    IsNumeral (insertPoint n places keepPoint) := by
  have hdigits := isNumeral_zeroPad (isNumeral_natText n) (places + 1)
  have hlength : places < (zeroPad (places + 1) (natText n)).length := by
    simp only [zeroPad, List.length_append, List.length_replicate]
    omega
  refine (hdigits.take (Nat.sub_pos_of_lt hlength)).append ?_
  split
  · cases keepPoint <;> decide
  · simpa using hdigits.blank_drop _

theorem blank_exponentText (e : Int) : .char ' ' ∉ exponentText e := by
  have hdigits : .char ' ' ∉ twoDigits e.natAbs := by
    unfold twoDigits
    split
    · simpa using (isNumeral_natText _).blank
    · exact (isNumeral_natText _).blank
  unfold exponentText
  split
  · simpa using hdigits
  · simpa using hdigits

theorem isNumeral_scientificDigits {digits : Text} (h : IsNumeral digits) (e : Int)
    (keepPoint : Bool) : IsNumeral (scientificDigits digits e keepPoint) := by
  refine ((h.take Nat.one_pos).append ?_).append (blank_exponentText e)
  split
  · simpa using h.blank_drop 1
  · cases keepPoint <;> decide

theorem isNumeral_roundedDigits (num den count : Nat) :
    IsNumeral (roundedDigits num den count).1 := by
  simp only [roundedDigits]
  split
  · exact isNumeral_natText _
  · exact isNumeral_natText _

theorem isNumeral_scientificText (num den places : Nat) (keepPoint : Bool) :
    IsNumeral (scientificText num den places keepPoint) := by
  unfold scientificText
  split
  · refine isNumeral_scientificDigits (.of_digits (by simp) fun c hc => ?_) _ _
    rw [List.eq_of_mem_replicate hc]
    decide
  · exact isNumeral_scientificDigits (isNumeral_roundedDigits ..) _ _

theorem isNumeral_generalText (num den precision : Nat) :
    IsNumeral (generalText num den precision) := by
  have hdigits := isNumeral_roundedDigits num den (max 1 precision)
  simp only [generalText]
  split
  · exact isNumeral_insertPoint ..
  · split
    · exact isNumeral_scientificDigits hdigits _ _
    · split
      · rename_i hpoint
        refine (hdigits.take (by omega)).append ?_
        simpa using hdigits.blank_drop _
      · refine ⟨⟨'0', _, rfl, by decide⟩, ?_⟩
        simpa using hdigits.blank

end Number

/-! ## Numbers and their signs -/

namespace Value

/-- The number with the other sign. -/
def opposite : Value → Value
  | int i => int (-i)
  | float x => float { x with negative := !x.negative }
  | v => v

/-- Below zero, which the negative zero is not. -/
def isBelowZero : Value → Bool
  | int i => i < 0
  | float x => x.isNegative
  | _ => false

/-- With a minus sign, which the negative zero has. -/
def isMinus : Value → Bool
  | int i => i < 0
  | float x => x.negative && !x.isNaN
  | _ => false

theorem isMinus_opposite {v : Value} (h : v.isBelowZero = true) : v.opposite.isMinus = false := by
  cases v with
  | int i =>
    simp only [isBelowZero, decide_eq_true_eq] at h
    simp only [opposite, isMinus, decide_eq_false_iff_not]
    omega
  | float x =>
    simp only [isBelowZero, Number.Binary64.isNegative, Bool.and_eq_true] at h
    simp [opposite, isMinus, h.1.1]
  | _ => cases h

end Value

namespace Printf

variable {s : Specifier} {v : Value}

theorem Conversion.kind_eq_floating_iff {c : Conversion} :
    c.kind = .floating ↔ c = scientific ∨ c = fixed ∨ c = general := by
  cases c <;> decide

/-- Conversions to decimal text take integers or finite floating point numbers. -/
def Conversion.Takes (k : Conversion) (v : Value) : Prop :=
  (k = .decimal ∧ ∃ i, v = .int i) ∨ (k.kind = .floating ∧ ∃ x, v = .float x ∧ x.isFinite = true)

namespace Specifier

/-- The digits of a number without a precision. There are none of an integer that is too long. -/
inductive Digits (s : Specifier) : Value → Text → Prop where
  | integer {i : Int} {digits : Text} : s.conversion = .decimal →
      integerDigits s i = .ok digits → Digits s (.int i) digits
  | floating {x : Number.Binary64} : s.conversion.kind = .floating → x.isFinite = true →
      Digits s (.float x) (floatDigits s 6 false x)

/-- Whether a number is written as one below zero. Parentheses are for those below zero only. -/
def writesMinus (s : Specifier) (v : Value) : Bool :=
  if s.flag = some .parenthesis then v.isBelowZero else v.isMinus

theorem Digits.opposite {digits : Text} (h : s.Digits v digits) : s.Digits v.opposite digits := by
  cases h with
  | @integer i _ hdecimal hdigits =>
    refine .integer hdecimal ?_
    rw [← hdigits]
    simp only [integerDigits, hdecimal, Int.natAbs_neg]
  | @floating x hkind hfinite =>
    exact .floating (x := { x with negative := !x.negative }) hkind hfinite

/-- The digits do not depend on the field. -/
theorem Digits.field {digits : Text} (h : s.Digits v digits) (flag : Option Flag) (width : Text) :
    ({ s with flag := flag, width := width } : Specifier).Digits v digits := by
  cases h with
  | integer hdecimal hdigits => exact .integer hdecimal hdigits
  | floating hkind hfinite =>
    exact .floating (s := { s with flag := flag, width := width }) hkind hfinite

theorem isNumeral_floatDigits {x : Number.Binary64} (hfinite : x.isFinite = true)
    (precision : Nat) (keepPoint : Bool) :
    Text.IsNumeral (floatDigits s precision keepPoint x) := by
  have hexponent : x.exponent.val ≠ 2047 := by simpa [Number.Binary64.isFinite] using hfinite
  have hnumber : x.isNaN = false ∧ x.isInfinite = false := by
    simp [Number.Binary64.isNaN, Number.Binary64.isInfinite, hexponent]
  have hcase : ∀ {t : Text}, t.IsNumeral →
      Text.IsNumeral (if s.isUpper then t.map CodePoint.toUpper else t) := by
    intro t ht
    split
    · exact ht.map_toUpper
    · exact ht
  simp only [floatDigits, hnumber, Bool.false_eq_true, if_false]
  refine hcase ?_
  split
  · exact Number.isNumeral_insertPoint ..
  · exact Number.isNumeral_generalText ..
  · exact Number.isNumeral_scientificText ..

theorem Digits.isNumeral {digits : Text} (h : s.Digits v digits) : Text.IsNumeral digits := by
  cases h with
  | integer hdecimal hdigits =>
    rw [eq_natText_of_integerDigits hdecimal hdigits]
    exact Number.isNumeral_natText _
  | floating hkind hfinite => exact isNumeral_floatDigits hfinite _ _

end Specifier

/-! ## Fields -/

theorem Filling.exists_fill_sign {digits : Text} (h : Text.IsNumeral digits) (f : Filling)
    (width : Nat) (sign : CodePoint) :
    ∃ before d rest, f.fill width [sign] digits = before ++ sign :: d :: rest ∧
      Text.isAsciiDigit d = true ∧ ∀ c ∈ before, Text.isAsciiDigit c = false := by
  cases f with
  | spacesRight =>
    obtain ⟨d, ds, rfl, hd⟩ := h.head
    exact ⟨[], d, _, rfl, hd, by simp⟩
  | zeros =>
    obtain ⟨d, ds, hpadded, hd⟩ := (Number.isNumeral_zeroPad h (width - 1)).head
    refine ⟨[], d, ds, ?_, hd, by simp⟩
    simp [fill, hpadded]
  | spacesLeft =>
    obtain ⟨d, ds, rfl, hd⟩ := h.head
    refine ⟨_, d, ds, rfl, hd, fun c hc => ?_⟩
    rw [List.eq_of_mem_replicate hc]
    decide

/-- A field of zeros has no space but one that stands for a sign. -/
theorem Filling.blank_fill_zeros {lead digits : Text} (hlead : .char ' ' ∉ lead)
    (h : Text.IsNumeral digits) (width : Nat) : .char ' ' ∉ Filling.zeros.fill width lead digits :=
  fun hmem => (List.mem_append.1 hmem).elim hlead (Number.isNumeral_zeroPad h _).blank

/-! ## Formatting -/

theorem formatFloat_eq_ok_iff (hkind : s.conversion.kind = .floating)
    (hprecision : s.precision = none) (hcomma : s.flag ≠ some .comma)
    (halternate : s.flag ≠ some .alternate) (x : Number.Binary64) {t : Text} :
    formatFloat s x = .ok t ↔
      s.ReadsWidth ∧ t = s.filling.fill (Number.digitsValue s.width)
        (s.sign (s.writesMinus (.float x)))
        (s.rest (s.writesMinus (.float x)) (floatDigits s 6 false x)) := by
  have hpads : s.PadsText ↔ s.flag = some .parenthesis := by
    rw [Specifier.padsText_iff_of_floating hkind, or_iff_left hcomma]
  unfold formatFloat
  split
  · rename_i hflag
    have hreads := Specifier.readsWidth_iff_of_padsText (hpads.2 hflag)
    cases hnegative : x.isNegative
    all_goals
      simp [formatFloat.plainPrecision, hprecision, parenthesized, pad_eq_ok_iff, hreads, hflag,
        hnegative, Specifier.writesMinus, Value.isBelowZero, Specifier.filling, Specifier.sign,
        Specifier.rest, Filling.fill]
  · rename_i hflag
    exact absurd hflag hcomma
  · rename_i hparenthesis _
    have hoctal : ¬ (s.conversion = .octal ∧ s.flag = some .alternate) :=
      fun h => halternate h.2
    have hkeeps : (layoutOf s.flag s.width).1.alternate = false := by simp [layoutOf, halternate]
    have hsign : s.writesMinus (.float x) = (x.negative && !x.isNaN) := if_neg hparenthesis
    simp only [hprecision, hkeeps, layOut_eq_fill hparenthesis hcomma hoctal, List.append_nil,
      Specifier.readsWidth_iff_of_not_padsText (mt hpads.1 hparenthesis), hsign,
      Specifier.rest_of_flag hparenthesis hcomma]
    exact field_eq_ok_iff _

theorem format_number_eq_ok_iff {spec : Text} (hparse : Specifier.parse? spec = some s)
    (hprecision : s.precision = none) (hcomma : s.flag ≠ some .comma)
    (halternate : s.flag ≠ some .alternate) (htakes : s.conversion.Takes v) {t : Text} :
    format spec v = .ok t ↔
      s.ReadsWidth ∧ ∃ digits, s.Digits v digits ∧
        t = s.filling.fill (Number.digitsValue s.width) (s.sign (s.writesMinus v))
          (s.rest (s.writesMinus v) digits) := by
  rcases htakes with ⟨hdecimal, i, rfl⟩ | ⟨hkind, x, rfl, hfinite⟩
  · have hword : ¬ s.conversion.IsWord := by simp [Conversion.IsWord, hdecimal]
    have hmark : s.mark = [] := if_neg halternate
    have hsign : s.writesMinus (.int i) = decide (i < 0) := by
      simp [Specifier.writesMinus, Value.isBelowZero, Value.isMinus]
    have hformat : format spec (.int i) = formatInteger s i := by
      simp [format, hparse, formatWith, hdecimal, formatWith.integer, hprecision]
    rw [hformat, formatInteger_eq_ok_iff (by rw [hdecimal]; rfl) (fun h => absurd h hword), hmark,
      List.append_nil, hsign, and_iff_right (fun h => hword h.1)]
    refine and_congr_right' (exists_congr fun digits => and_congr_left' ?_)
    refine ⟨.integer hdecimal, fun h => ?_⟩
    cases h with
    | integer _ hdigits => exact hdigits
  · have hformat : format spec (.float x) = formatFloat s x := by
      rcases Conversion.kind_eq_floating_iff.1 hkind with h | h | h
      all_goals simp [format, hparse, formatWith, h, formatWith.float, halternate]
    rw [hformat, formatFloat_eq_ok_iff hkind hprecision hcomma halternate]
    refine and_congr_right' ⟨fun h => ⟨_, .floating hkind hfinite, h⟩, ?_⟩
    rintro ⟨digits, hdigits, rfl⟩
    cases hdigits with
    | floating _ _ => rfl

theorem Conversion.Takes.opposite {k : Conversion} (h : k.Takes v) : k.Takes v.opposite := by
  rcases h with ⟨hk, i, rfl⟩ | ⟨hk, x, rfl, hfinite⟩
  · exact .inl ⟨hk, _, rfl⟩
  · exact .inr ⟨hk, _, rfl, hfinite⟩

/-- The flags of numbers. Whatever the conversion, the width and the finite number, with the plus
flag a sign stands directly before the first digit, a minus sign if the number is below zero or the
negative zero. A number below zero is written in parentheses as its opposite is written without
them. With the zero flag no space is written. -/
theorem format_number_flags {letter : CodePoint} {k : Conversion} {width t : Text}
    (hletter : Conversion.ofLetter? letter = some k)
    (hwidth : ∀ c ∈ width, Text.isDecimal c = true) (htakes : k.Takes v) :
    (format (Specifier.spelled (some .plus) width letter) v = .ok t →
      ∃ before d rest, t = before ++ .char (if v.isMinus then '-' else '+') :: d :: rest ∧
        Text.isAsciiDigit d = true ∧ ∀ c ∈ before, Text.isAsciiDigit c = false) ∧
    (format (Specifier.spelled (some .parenthesis) width letter) v = .ok t →
      v.isBelowZero = true → ∃ u,
        format (Specifier.spelled none [] letter) v.opposite = .ok u ∧
        t = Text.padLeft (Number.digitsValue width) (.char '(' :: u ++ [.char ')'])) ∧
    (format (Specifier.spelled (some .zero) width letter) v = .ok t → .char ' ' ∉ t) := by
  have hparse : ∀ flag, Specifier.parse? (Specifier.spelled (some flag) width letter) =
      some ⟨some flag, width, none, letter, k⟩ :=
    fun flag => Specifier.parse?_spelled hletter hwidth (by simp)
  refine ⟨fun ht => ?_, fun ht hbelow => ?_, fun ht => ?_⟩
  · obtain ⟨-, digits, hdigits, rfl⟩ :=
      (format_number_eq_ok_iff (hparse .plus) rfl (by simp) (by simp) htakes).1 ht
    rw [Specifier.rest_of_flag (by simp) (by simp)]
    have hsign : (⟨some .plus, width, none, letter, k⟩ : Specifier).sign v.isMinus =
        [.char (if v.isMinus then '-' else '+')] := by
      cases v.isMinus <;> rfl
    exact hsign ▸ Filling.exists_fill_sign hdigits.isNumeral _ _ _
  · obtain ⟨-, digits, hdigits, rfl⟩ :=
      (format_number_eq_ok_iff (hparse .parenthesis) rfl (by simp) (by simp) htakes).1 ht
    have hbare : Specifier.parse? (Specifier.spelled none [] letter) =
        some ⟨none, [], none, letter, k⟩ := Specifier.parse?_spelled hletter (by simp) (by simp)
    refine ⟨digits, (format_number_eq_ok_iff hbare rfl (by simp) (by simp) htakes.opposite).2
      ⟨Specifier.readsWidth_of_nil rfl, digits, hdigits.opposite.field none [], ?_⟩, ?_⟩
    · rw [Specifier.rest_of_flag (by simp) (by simp)]
      have hminus : (⟨none, [], none, letter, k⟩ : Specifier).writesMinus v.opposite = false :=
        Value.isMinus_opposite hbelow
      rw [hminus]
      exact (Filling.fill_zero _ [] digits).symm
    · have hminus :
          (⟨some .parenthesis, width, none, letter, k⟩ : Specifier).writesMinus v = true :=
        hbelow
      rw [hminus]
      simp [Specifier.filling, Filling.fill, Specifier.sign, Specifier.rest]
  · obtain ⟨-, digits, hdigits, rfl⟩ :=
      (format_number_eq_ok_iff (hparse .zero) rfl (by simp) (by simp) htakes).1 ht
    rw [Specifier.rest_of_flag (by simp) (by simp)]
    have hzeros : (⟨some .zero, width, none, letter, k⟩ : Specifier).filling = .zeros := by
      simp [Specifier.filling]
    have hsign : ∀ negative,
        .char ' ' ∉ (⟨some .zero, width, none, letter, k⟩ : Specifier).sign negative := by
      intro negative
      cases negative <;> simp [Specifier.sign]
    rw [hzeros]
    exact Filling.blank_fill_zeros (hsign _) hdigits.isNumeral _

/-- A number below zero in each of the fields. -/
theorem format_number_flags_below_zero :
    let v : Value := .float (.ofRatio true 5 2)
    Conversion.ofLetter? 'g' = some .general ∧ (∀ c ∈ "10".toText, Text.isDecimal c = true) ∧
      Conversion.general.Takes v ∧ v.isBelowZero = true ∧
      format "%+10g".toText v = .ok "  -2.50000".toText ∧
      format "%(10g".toText v = .ok " (2.50000)".toText ∧
      format "%010g".toText v = .ok "-002.50000".toText ∧
      (∃ before d rest, "  -2.50000".toText = before ++ .char '-' :: d :: rest ∧
        Text.isAsciiDigit d = true ∧ ∀ c ∈ before, Text.isAsciiDigit c = false) ∧
      (∃ u, format "%g".toText v.opposite = .ok u ∧
        " (2.50000)".toText = Text.padLeft 10 (.char '(' :: u ++ [.char ')'])) ∧
      .char ' ' ∉ "-002.50000".toText := by
  intro v
  have hletter : Conversion.ofLetter? 'g' = some .general := rfl
  have hwidth : ∀ c ∈ "10".toText, Text.isDecimal c = true :=
    Directive.forall_mem_of_all (by decide)
  have htakes : Conversion.general.Takes v := .inr ⟨rfl, _, rfl, by decide +kernel⟩
  have hbelow : v.isBelowZero = true := by decide +kernel
  have hminus : v.isMinus = true := by decide +kernel
  have hplus : format "%+10g".toText v = .ok "  -2.50000".toText := by decide +kernel
  have hparenthesis : format "%(10g".toText v = .ok " (2.50000)".toText := by decide +kernel
  have hzero : format "%010g".toText v = .ok "-002.50000".toText := by decide +kernel
  have hsign := (format_number_flags hletter hwidth htakes).1 hplus
  rw [hminus] at hsign
  exact ⟨hletter, hwidth, htakes, hbelow, hplus, hparenthesis, hzero, hsign,
    (format_number_flags hletter hwidth htakes).2.1 hparenthesis hbelow,
    (format_number_flags hletter hwidth htakes).2.2 hzero⟩

/-- The negative zero is not below zero, but it keeps its minus sign. -/
theorem format_plus_negative_zero :
    format "%+f".toText (.float (.zero true)) = .ok "-0.000000".toText ∧
      ¬ ∀ (letter : CodePoint) (k : Conversion) (width : Text) (v : Value) (t : Text),
        Conversion.ofLetter? letter = some k → (∀ c ∈ width, Text.isDecimal c = true) →
        k.Takes v → v.isBelowZero = false →
        format (Specifier.spelled (some .plus) width letter) v = .ok t →
        ∃ before d rest, t = before ++ .char '+' :: d :: rest ∧ Text.isAsciiDigit d = true ∧
          ∀ c ∈ before, Text.isAsciiDigit c = false := by
  have hformat : format "%+f".toText (.float (.zero true)) = .ok "-0.000000".toText := by
    decide +kernel
  refine ⟨hformat, fun h => ?_⟩
  obtain ⟨before, d, rest, htext, -, -⟩ := h 'f' .fixed [] _ _ rfl (by simp)
    (.inr ⟨rfl, .zero true, rfl, by decide⟩) (by decide) hformat
  have hplus : .char '+' ∈ "-0.000000".toText := by
    rw [htext]
    simp
  exact absurd hplus (by decide)

end Printf

end BraceTemplate
