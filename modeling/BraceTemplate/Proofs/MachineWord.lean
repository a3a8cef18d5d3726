import BraceTemplate.Proofs.Fields

/-!
# BraceTemplate.Proofs.MachineWord

Negative integers in the octal and hexadecimal conversions. The digits that are written are read
back by a reader of numerals (`Number.numeral?_digits`). They denote the integer's machine word of
32 or 64 bits; an integer below the words of 64 bits has none, and is written as another integer
(`Printf.format_negative`).
-/

namespace BraceTemplate

/-! ## Numerals -/

namespace Number

/-- The number with one more digit of a base up to sixteen behind its digits. -/
def readDigit? (base n : Nat) (c : CodePoint) : Option Nat :=
  ((Text.hexValue? c).filter (· < base)).map (base * n + ·)

/-- The number that digits of a base denote, the most significant first. -/
def numeral? (base : Nat) (t : Text) : Option Nat :=
  if t.isEmpty then none else t.foldlM (readDigit? base) 0

/-- The integer that a numeral denotes, with a minus sign before it if it is below zero. -/
def integer? (base : Nat) : Text → Option Int
  | '-' :: t => (numeral? base t).map fun n : Nat => -(n : Int)
  | t => (numeral? base t).map fun n : Nat => (n : Int)

theorem readDigit?_zero {base : Nat} (hbase : 0 < base) (n : Nat) :
    readDigit? base n '0' = some (base * n) := by
  have hvalue : Text.hexValue? '0' = some 0 := by decide
  simp [readDigit?, hvalue, hbase]

theorem isSome_hexValue?_of_foldlM {base m n : Nat} {t : Text}
    (h : t.foldlM (readDigit? base) m = some n) {c : CodePoint} (hc : c ∈ t) :
    (Text.hexValue? c).isSome := by
  induction t generalizing m with
  | nil => cases hc
  | cons d t ih =>
    rw [List.foldlM_cons, Option.bind_eq_bind, Option.bind_eq_some_iff] at h
    obtain ⟨k, hd, ht⟩ := h
    rcases List.mem_cons.1 hc with rfl | hc
    · unfold readDigit? at hd
      cases hvalue : Text.hexValue? c with
      | none => simp [hvalue] at hd
      | some x => rfl
    · exact ih ht hc

theorem isSome_hexValue?_of_numeral? {base n : Nat} {t : Text} (h : numeral? base t = some n)
    {c : CodePoint} (hc : c ∈ t) : (Text.hexValue? c).isSome := by
  unfold numeral? at h
  split at h
  · cases h
  · exact isSome_hexValue?_of_foldlM h hc

theorem integer?_of_numeral? {base n : Nat} {t : Text} (h : numeral? base t = some n) :
    integer? base t = some (n : Int) := by
  unfold integer?
  split
  · exact absurd (isSome_hexValue?_of_numeral? h List.mem_cons_self) (by decide)
  · rw [h, Option.map_some]

/-- Digits behind a minus sign, if the integer is below zero. -/
def signed (i : Int) (digits : Text) : Text := if i < 0 then '-' :: digits else digits

theorem integer?_signed {base : Nat} {i : Int} {digits : Text}
    (h : numeral? base digits = some i.natAbs) : integer? base (signed i digits) = some i := by
  unfold signed
  split
  · rename_i hnegative
    rw [integer?, h, Option.map_some]
    congr 1
    omega
  · rw [integer?_of_numeral? h]
    congr 1
    omega

theorem not_mem_signed {base n : Nat} {i : Int} {digits : Text} (h : numeral? base digits = some n)
    {c : CodePoint} (hminus : c ≠ '-') (hc : Text.hexValue? c = none) : c ∉ signed i digits := by
  have hdigits : c ∉ digits := by
    intro hmem
    have hsome := isSome_hexValue?_of_numeral? h hmem
    rw [hc] at hsome
    cases hsome
  unfold signed
  split
  · exact fun hmem => (List.mem_cons.1 hmem).elim hminus hdigits
  · exact hdigits

theorem minus_mem_signed_iff {base n : Nat} {i : Int} {digits : Text}
    (h : numeral? base digits = some n) : .char '-' ∈ signed i digits ↔ i < 0 := by
  unfold signed
  split
  · rename_i hnegative
    exact iff_of_true List.mem_cons_self hnegative
  · rename_i hnegative
    refine iff_of_false (fun hmem => ?_) hnegative
    exact absurd (isSome_hexValue?_of_numeral? h hmem) (by decide)

variable {base : Nat} {g : CodePoint → CodePoint}

/-- The digits are written in a form in which they keep their values. -/
def KeepsDigits (g : CodePoint → CodePoint) : Prop :=
  ∀ k < 16, Text.hexValue? (g (.char k.digitChar)) = some k

theorem keepsDigits_id : KeepsDigits id := fun _ => Text.hexValue?_digitChar

theorem keepsDigits_toUpper : KeepsDigits CodePoint.toUpper := by
  have hall : ∀ k : Fin 16, Text.hexValue? (.char k.val.digitChar.toUpper) = some k.val := by
    decide
  exact fun k hk => hall ⟨k, hk⟩

/-- By induction on the number, the last digit being split off. -/
theorem foldlM_digits (hg : KeepsDigits g) (hlow : 1 < base) (hhigh : base ≤ 16) (n : Nat) :
    ((Text.digits base n).map g).foldlM (readDigit? base) 0 = some n := by
  have hdigit : ∀ m, ∀ k < base, readDigit? base m (g (.char k.digitChar)) =
      some (base * m + k) := by
    intro m k hk
    simp [readDigit?, hg k (by omega), hk]
  induction n using Nat.strongRecOn with
  | ind n ih =>
    rw [Text.digits_eq_if hlow]
    split
    · rename_i hlt
      simp [hdigit 0 n hlt]
    · rename_i hge
      have hrest := ih (n / base) (Nat.div_lt_self (by omega) hlow)
      have hn : base * (n / base) + n % base = n := Nat.div_add_mod n base
      simp [List.foldlM_append, hrest, hdigit _ _ (Nat.mod_lt n (by omega)), hn]

theorem numeral?_digits (hg : KeepsDigits g) (hlow : 1 < base) (hhigh : base ≤ 16) (n : Nat) :
    numeral? base ((Text.digits base n).map g) = some n := by
  have hne : ((Text.digits base n).map g).isEmpty = false := by
    rw [List.isEmpty_map, List.isEmpty_eq_false_iff]
    exact Text.digits_ne_nil
  rw [numeral?, hne]
  exact foldlM_digits hg hlow hhigh n

end Number

/-! ## The octal and hexadecimal conversions -/

namespace Printf

namespace Conversion

/-- The base of the conversions of integers. -/
def base : Conversion → Nat
  | octal => 8
  | hexadecimal => 16
  | _ => 10

theorem one_lt_base (c : Conversion) : 1 < c.base := by
  cases c <;> decide

theorem base_le (c : Conversion) : c.base ≤ 16 := by
  cases c <;> decide

/-- Negative integers are written as machine words. -/
def IsWord (c : Conversion) : Prop := c = octal ∨ c = hexadecimal

end Conversion

open Conversion

theorem exists_integerDigits {s : Specifier} (h : s.conversion.IsWord) (i : Int) :
    ∃ g, Number.KeepsDigits g ∧
      integerDigits s i = .ok ((Text.digits s.conversion.base i.natAbs).map g) := by
  unfold integerDigits
  rcases h with h | h
  · rw [h]
    exact ⟨id, Number.keepsDigits_id, by simp [base]⟩
  · rw [h]
    by_cases hupper : s.isUpper = true
    · exact ⟨CodePoint.toUpper, Number.keepsDigits_toUpper, by simp [base, hupper]⟩
    · exact ⟨id, Number.keepsDigits_id, by simp [base, hupper]⟩

theorem exists_of_parse? {spec : Text} {s : Specifier} (h : Specifier.parse? spec = some s) :
    ∃ t, spec = .char '%' :: t ∧ s.flag = (Specifier.splitFlag t).1 ∧
      s.width = (Specifier.splitFlag t).2.takeWhile Text.isDecimal := by
  unfold Specifier.parse? at h
  split at h
  · rename_i t
    refine ⟨t, rfl, ?_⟩
    cases hflag : Specifier.splitFlag t with
    | mk flag rest =>
      simp only [hflag] at h
      cases hprecision : Specifier.splitPrecision (rest.dropWhile Text.isDecimal) with
      | mk precision rest' =>
        simp only [hprecision] at h
        split at h
        · cases h
        · obtain ⟨k, -, rfl⟩ := Option.map_eq_some_iff.1 h
          exact ⟨rfl, rfl⟩
  · cases h

theorem head?_splitFlag_ne {t : Text} (h : (Specifier.splitFlag t).1 = none) :
    (Specifier.splitFlag t).2.head? ≠ some (.char '0') := by
  cases t with
  | nil => simp [Specifier.splitFlag]
  | cons c t =>
    rw [Specifier.splitFlag] at h ⊢
    cases hflag : Flag.ofChar? c with
    | some f => simp [hflag] at h
    | none =>
      rintro ⟨⟩
      cases hflag

theorem head?_width_ne {spec : Text} {s : Specifier} (h : Specifier.parse? spec = some s)
    (hflag : s.flag = none) : s.width.head? ≠ some (.char '0') := by
  obtain ⟨t, -, hsplit, hwidth⟩ := exists_of_parse? h
  intro hhead
  rw [hwidth, List.head?_takeWhile, Option.filter_eq_some_iff] at hhead
  exact head?_splitFlag_ne (hsplit.symm.trans hflag) hhead.1

theorem layoutOf_none {width : Text} (h : width.head? ≠ some (.char '0')) :
    layoutOf none width = (⟨[], false, false, false⟩, width) := by
  have hwidth : width.dropWhile (· = .char '0') = width := by
    cases width with
    | nil => rfl
    | cons c width =>
      rw [List.dropWhile_cons_of_neg]
      simpa using h
  simp [layoutOf, hwidth, h]

theorem formatInteger_of_flag_none {s : Specifier} (hflag : s.flag = none)
    (hwidth : s.width.head? ≠ some (.char '0')) (h : s.conversion.IsWord) {i : Int} {digits : Text}
    (hdigits : integerDigits s (machineWord i) = .ok digits) :
    formatInteger s i =
      match readAsciiNumber maxWidth s.width with
      | .error e => .error e
      | .ok n => .ok (Text.padLeft n (Number.signed (machineWord i) digits)) := by
  have hdecimal : s.conversion ≠ .decimal := by
    rcases h with h | h
    · simp [h]
    · simp [h]
  unfold formatInteger
  simp only [if_neg hdecimal, hdigits, hflag, layoutOf_none hwidth]
  cases readAsciiNumber maxWidth s.width with
  | error e => simp
  | ok n =>
    by_cases hnegative : machineWord i < 0
    · simp [layOut, Text.padLeft, Number.signed, hnegative]
    · simp [layOut, Text.padLeft, Number.signed, hnegative]

theorem format_of_isWord {spec : Text} {s : Specifier} (hparse : Specifier.parse? spec = some s)
    (h : s.conversion.IsWord) (i : Int) :
    format spec (.int i) =
      if s.precision.isSome then conversionError (.precisionNotAllowed spec)
      else formatInteger s i := by
  rw [format, hparse]
  rcases h with h | h
  · simp only [formatWith, h, formatWith.integer]
  · simp only [formatWith, h, formatWith.integer]

theorem exists_format_eq_ok_iff {spec : Text} {s : Specifier}
    (hparse : Specifier.parse? spec = some s) (hflag : s.flag = none)
    (hword : s.conversion.IsWord) (i : Int) :
    ∃ digits, Number.numeral? s.conversion.base digits = some (machineWord i).natAbs ∧
      ∀ r, format spec (.int i) = .ok r ↔
        (s.precision = none ∧ IsReadable maxWidth s.width) ∧
          r = Text.padLeft (Number.digitsValue s.width)
            (Number.signed (machineWord i) digits) := by
  obtain ⟨g, hg, hdigits⟩ := exists_integerDigits hword (machineWord i)
  refine ⟨_, Number.numeral?_digits hg s.conversion.one_lt_base s.conversion.base_le _,
    fun r => ?_⟩
  rw [format_of_isWord hparse hword,
    formatInteger_of_flag_none hflag (head?_width_ne hparse hflag) hword hdigits]
  cases s.precision with
  | some p => simp [conversionError]
  | none =>
    by_cases hwidth : IsReadable maxWidth s.width
    · simp [readAsciiNumber_eq_ok hwidth, hwidth, eq_comm]
    · simp [readAsciiNumber_eq_fault hwidth, hwidth]

/-! ## Machine words -/

/-- The number of bits of the word that stands for a negative integer. -/
def wordBits (i : Int) : Nat := if -2 ^ 31 ≤ i then 32 else 64

theorem machineWord_eq {i : Int} (h : i < 0) : machineWord i = i + 2 ^ wordBits i := by
  unfold machineWord wordBits
  by_cases hsmall : (-2 ^ 31 : Int) ≤ i
  · rw [if_pos h, if_pos hsmall, if_pos (by omega)]
    rfl
  · rw [if_pos h, if_neg hsmall, if_neg (by omega)]
    rfl

theorem machineWord_neg_iff {i : Int} (h : i < 0) : machineWord i < 0 ↔ i < -2 ^ 64 := by
  rw [machineWord_eq h]
  unfold wordBits
  split
  · omega
  · omega

theorem isWord_iff {i : Int} (h : i < 0) :
    2 ^ (wordBits i - 1) ≤ i + 2 ^ wordBits i ∧ i + 2 ^ wordBits i < 2 ^ wordBits i ↔
      -2 ^ 63 ≤ i := by
  unfold wordBits
  split
  · omega
  · omega

/-- A negative integer in an octal or hexadecimal conversion without a flag. A text is given for
every width of ASCII digits that is not too large. It is, behind padding, a numeral of the integer's
machine word, of 32 bits if they suffice and else of 64 bits: without a minus sign and with the
first bit set. Below the integers of 64 bits there is no such word. What is written then has the
first bit clear, or is a negative number. -/
theorem format_negative {spec : Text} {s : Specifier} {i : Int}
    (hparse : Specifier.parse? spec = some s) (hflag : s.flag = none)
    (hword : s.conversion.IsWord) (hi : i < 0) :
    ((∃ r, format spec (.int i) = .ok r) ↔ s.precision = none ∧ IsReadable maxWidth s.width) ∧
    ∀ r, format spec (.int i) = .ok r → ∃ text,
      r = Text.padLeft (Number.digitsValue s.width) text ∧ .char ' ' ∉ text ∧
      Number.integer? s.conversion.base text = some (i + 2 ^ wordBits i) ∧
      (.char '-' ∈ text ↔ i < -2 ^ 64) ∧
      (2 ^ (wordBits i - 1) ≤ i + 2 ^ wordBits i ∧ i + 2 ^ wordBits i < 2 ^ wordBits i ↔
        -2 ^ 63 ≤ i) := by
  obtain ⟨digits, hnumeral, hformat⟩ := exists_format_eq_ok_iff hparse hflag hword i
  refine ⟨⟨fun ⟨r, hr⟩ => ((hformat r).1 hr).1, fun h => ⟨_, (hformat _).2 ⟨h, rfl⟩⟩⟩, ?_⟩
  intro r hr
  refine ⟨_, ((hformat r).1 hr).2, ?_, ?_, ?_, isWord_iff hi⟩
  · exact Number.not_mem_signed hnumeral (by decide) (by decide)
  · rw [← machineWord_eq hi]
    exact Number.integer?_signed hnumeral
  · rw [← machineWord_neg_iff hi]
    exact Number.minus_mem_signed_iff hnumeral

/-- A word of 32 bits in octal digits, in a field of twelve characters. -/
theorem format_negative_padded :
    let spec := "%12o".toText
    let s : Specifier := ⟨none, ['1', '2'], none, 'o', .octal⟩
    Specifier.parse? spec = some s ∧ s.flag = none ∧ s.conversion.IsWord ∧ (-8 : Int) < 0 ∧
      format spec (.int (-8)) = .ok " 37777777770".toText ∧
      ∃ text, " 37777777770".toText = Text.padLeft 12 text ∧ .char ' ' ∉ text ∧ .char '-' ∉ text ∧
        Number.integer? 8 text = some (-8 + 2 ^ 32) := by
  intro spec s
  have hparse : Specifier.parse? spec = some s := by decide
  have hformat : format spec (.int (-8)) = .ok " 37777777770".toText := by decide +kernel
  obtain ⟨text, htext, hblank, hvalue, hminus, -⟩ :=
    (format_negative hparse rfl (.inl rfl) (by decide : (-8 : Int) < 0)).2 _ hformat
  exact ⟨hparse, rfl, .inl rfl, by decide, hformat, text, htext, hblank,
    fun h => absurd (hminus.1 h) (by decide), hvalue⟩

/-- The greatest integer that is written with a minus sign. -/
theorem format_below_words :
    format "%x".toText (.int (-2 ^ 64 - 1)) = .ok "-1".toText ∧
      ¬ ∀ (spec : Text) (s : Specifier) (i : Int) (r : Text), Specifier.parse? spec = some s →
        s.flag = none → s.conversion.IsWord → i < 0 → format spec (.int i) = .ok r →
        ∃ text, r = Text.padLeft (Number.digitsValue s.width) text ∧
          .char ' ' ∉ text ∧ .char '-' ∉ text ∧
          ∃ u, Number.integer? s.conversion.base text = some u ∧ u = i + 2 ^ wordBits i ∧
            2 ^ (wordBits i - 1) ≤ u ∧ u < 2 ^ wordBits i := by
  have hformat : format "%x".toText (.int (-2 ^ 64 - 1)) = .ok "-1".toText := by decide +kernel
  refine ⟨hformat, fun h => ?_⟩
  obtain ⟨text, -, -, -, u, -, rfl, hfirst, -⟩ :=
    h _ ⟨none, [], none, 'x', .hexadecimal⟩ _ _ (by decide) rfl (.inr rfl) (by decide) hformat
  exact absurd hfirst (by decide)

end Printf

end BraceTemplate
