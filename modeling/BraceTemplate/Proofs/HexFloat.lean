import BraceTemplate.Number.Reading
import BraceTemplate.Proofs.IntegerField
import Mathlib.Algebra.Field.Rat
import Mathlib.Data.List.DropRight
import Mathlib.Tactic.FieldSimp
import Mathlib.Tactic.LinearCombination

/-!
# BraceTemplate.Proofs.HexFloat

The hexadecimal text of a floating point number is exact. A reader of such texts is stated on its
own (`Number.readHexFloat?`); it gives back the sign and the magnitude of every finite number, zeros
and subnormal numbers included (`readHexFloat?_hexText`). A finite number is known by its sign and
its magnitude (`Binary64.eq_of_magnitude_eq`), so that no two numbers have one text
(`Printf.format_hexFloat`).
-/

namespace BraceTemplate

namespace Number

/-! ## Reading -/

/-- The sign and the magnitude that a hexadecimal text of a floating point number denotes: digits
with a point behind the first one, times a power of two. -/
def readHexFloat? (t : Text) : Option (Bool × ℚ) :=
  let (negative, body) := splitSign t
  match body with
  | '0' :: 'x' :: whole :: '.' :: rest =>
    let part := rest.takeWhile (· ≠ .char 'p')
    let power := (rest.dropWhile (· ≠ .char 'p')).drop 1
    match numeral? 16 (whole :: part), integer? 10 power with
    | some n, some e => some (negative, n / 16 ^ part.length * 2 ^ e)
    | _, _ => none
  | _ => none

/-- A sign if any, a zero and an `x`, a first digit up to one, a point and digits behind it, and an
exponent in decimal. The last digit is no zero, unless it is the only one behind the point. -/
inductive IsHexFloat : Text → Prop where
  | mk {sign part minus power : Text} {whole : CodePoint} :
      (sign = [] ∨ sign = [.char '-']) → (whole = '0' ∨ whole = '1') →
      part ≠ [] → (∀ c ∈ part, c ∈ "0123456789abcdef".toText) →
      (part.getLast? = some (.char '0') → part = [.char '0']) →
      (minus = [] ∨ minus = [.char '-']) → power ≠ [] → (∀ c ∈ power, Text.isAsciiDigit c = true) →
      IsHexFloat (sign ++ .char '0' :: .char 'x' :: whole :: .char '.' ::
        (part ++ .char 'p' :: (minus ++ power)))

/-- What digits denote behind others. -/
theorem foldlM_readDigit?_from {base n : Nat} {t : Text}
    (h : t.foldlM (readDigit? base) 0 = some n) (m : Nat) :
    t.foldlM (readDigit? base) m = some (m * base ^ t.length + n) := by
  induction t using List.reverseRecOn generalizing n with
  | nil =>
    cases h
    simp
  | append_singleton t c ih =>
    simp only [List.foldlM_append, List.foldlM_cons, List.foldlM_nil, bind_pure] at h ⊢
    rw [Option.bind_eq_bind, Option.bind_eq_some_iff] at h ⊢
    obtain ⟨k, hk, hc⟩ := h
    refine ⟨_, ih hk, ?_⟩
    unfold readDigit? at hc ⊢
    obtain ⟨d, hd, rfl⟩ := Option.map_eq_some_iff.1 hc
    rw [hd, Option.map_some, List.length_append, List.length_singleton, pow_succ]
    congr 1
    ring

theorem foldlM_zeros {base : Nat} (hbase : 0 < base) (k m : Nat) :
    (List.replicate k (.char '0')).foldlM (readDigit? base) m = some (m * base ^ k) := by
  induction k generalizing m with
  | zero => simp
  | succ k ih =>
    rw [List.replicate_succ, List.foldlM_cons, readDigit?_zero hbase, Option.bind_eq_bind,
      Option.bind_some, ih, pow_succ]
    congr 1
    ring

theorem foldlM_of_numeral? {base n : Nat} {t : Text} (h : numeral? base t = some n) :
    t.foldlM (readDigit? base) 0 = some n := by
  unfold numeral? at h
  split at h
  · cases h
  · exact h

theorem mem_hexDigits_of_mem_digits {n : Nat} {c : CodePoint} (h : c ∈ Text.digits 16 n) :
    c ∈ "0123456789abcdef".toText := by
  have hall : ∀ k : Fin 16, .char k.val.digitChar ∈ "0123456789abcdef".toText := by decide
  induction n using Nat.strongRecOn with
  | ind n ih =>
    rw [Text.digits_eq_if (by decide)] at h
    split at h
    · rename_i hlt
      rw [List.mem_singleton.1 h]
      exact hall ⟨n, hlt⟩
    · rename_i hge
      rcases List.mem_append.1 h with h | h
      · exact ih (n / 16) (Nat.div_lt_self (by omega) (by decide)) h
      · rw [List.mem_singleton.1 h]
        exact hall ⟨n % 16, Nat.mod_lt _ (by decide)⟩

theorem integer?_intText (e : Int) : integer? 10 (intText e) = some e := by
  have hdigits := numeral?_digits keepsDigits_id (by decide) (by decide : 10 ≤ 16) e.natAbs
  rw [List.map_id] at hdigits
  exact integer?_signed hdigits

namespace Binary64

/-! ## The digits of the fraction -/

/-- The digits behind the point. -/
def hexPart (x : Binary64) : Text :=
  let trimmed := x.fractionDigits.rdropWhile (· = .char '0')
  if trimmed.isEmpty then ['0'] else trimmed

variable {x y : Binary64}

theorem length_fractionDigits (x : Binary64) : x.fractionDigits.length = 13 := by
  have hlength : (Text.digits 16 x.fraction.val).length ≤ 13 :=
    (Text.length_digits_le_iff (by decide) (by decide)).2 x.fraction.isLt
  simp only [fractionDigits, zeroPad, List.length_append, List.length_replicate]
  omega

theorem foldlM_fractionDigits (x : Binary64) :
    x.fractionDigits.foldlM (readDigit? 16) 0 = some x.fraction.val := by
  have hdigits := numeral?_digits keepsDigits_id (by decide) (by decide : 16 ≤ 16) x.fraction.val
  rw [List.map_id] at hdigits
  refine foldlM_of_numeral? ?_
  rwa [fractionDigits, zeroPad, numeral?_zeros (by decide) Text.digits_ne_nil]

theorem hexPart_ne_nil (x : Binary64) : x.hexPart ≠ [] := by
  unfold hexPart
  simp only
  split
  · exact List.cons_ne_nil _ _
  · rename_i hempty
    simpa using hempty

theorem mem_hexDigits_of_mem_hexPart {c : CodePoint} (h : c ∈ x.hexPart) :
    c ∈ "0123456789abcdef".toText := by
  unfold hexPart at h
  simp only at h
  split at h
  · rw [List.mem_singleton.1 h]
    decide
  · have hmem := (List.rdropWhile_prefix _ _).mem h
    unfold fractionDigits zeroPad at hmem
    rcases List.mem_append.1 hmem with hmem | hmem
    · rw [List.eq_of_mem_replicate hmem]
      decide
    · exact mem_hexDigits_of_mem_digits hmem

theorem eq_of_getLast?_hexPart (h : x.hexPart.getLast? = some (.char '0')) :
    x.hexPart = [.char '0'] := by
  unfold hexPart at h ⊢
  simp only at h ⊢
  split
  · rfl
  · rename_i hempty
    rw [if_neg hempty] at h
    have hne : x.fractionDigits.rdropWhile (· = .char '0') ≠ [] := by simpa using hempty
    have hlast := List.rdropWhile_last_not (· = .char '0') x.fractionDigits hne
    rw [List.getLast?_eq_some_getLast hne] at h
    simp [Option.some.inj h] at hlast

theorem exists_foldlM_hexPart (x : Binary64) :
    ∃ n, x.hexPart.foldlM (readDigit? 16) 0 = some n ∧
      n * 16 ^ 13 = x.fraction.val * 16 ^ x.hexPart.length := by
  have hzeros : ∀ c ∈ x.fractionDigits.rtakeWhile (· = .char '0'), c = .char '0' :=
    fun c hc => by simpa using List.mem_rtakeWhile_imp hc
  have hlength := x.length_fractionDigits
  have hdigits := x.foldlM_fractionDigits
  rw [← List.rdropWhile_append_rtakeWhile (p := (· = .char '0')) (l := x.fractionDigits),
    List.eq_replicate_of_mem hzeros] at hlength hdigits
  rw [List.foldlM_append, Option.bind_eq_bind, Option.bind_eq_some_iff] at hdigits
  obtain ⟨n, hn, hfraction⟩ := hdigits
  rw [foldlM_zeros (by decide), Option.some.injEq] at hfraction
  rw [List.length_append, List.length_replicate] at hlength
  unfold hexPart
  simp only
  split
  · rename_i hempty
    rw [List.isEmpty_iff.1 hempty] at hn
    cases hn
    refine ⟨0, by decide, ?_⟩
    rw [← hfraction]
    simp
  · refine ⟨n, hn, ?_⟩
    rw [← hfraction, ← hlength]
    ring

/-! ## The text -/

theorem hexText_of_isFinite (h : x.isFinite = true) :
    x.hexText = (if x.negative then [.char '-'] else []) ++ .char '0' :: .char 'x' ::
      .char (if x.exponent.val = 0 then '0' else '1') :: .char '.' ::
        (x.hexPart ++ .char 'p' :: intText x.hexExponent) := by
  have hexponent : decide (x.exponent.val = 2047) = false := decide_eq_false (of_decide_eq_true h)
  have hnan : x.isNaN = false := by rw [isNaN, hexponent, Bool.false_and]
  have hinfinite : x.isInfinite = false := by rw [isInfinite, hexponent, Bool.false_and]
  have hlead : (if x.exponent.val = 0 then "0x0." else "0x1.").toText =
      [.char '0', .char 'x', .char (if x.exponent.val = 0 then '0' else '1'), .char '.'] := by
    split <;> rfl
  unfold hexText hexPart List.rdropWhile
  simp only [hnan, hinfinite, hlead, Bool.false_eq_true, if_false, List.append_assoc,
    List.cons_append, List.nil_append]

/-- The magnitude of a finite number. -/
def magnitude (x : Binary64) : ℚ := x.significand * 2 ^ x.scale

theorem isHexFloat_hexText (h : x.isFinite = true) : IsHexFloat x.hexText := by
  obtain ⟨minus, power, hminus, hpower, hdigits, htext⟩ : ∃ minus power : Text,
      (minus = [] ∨ minus = [.char '-']) ∧ power ≠ [] ∧ (∀ c ∈ power, Text.isAsciiDigit c = true) ∧
      intText x.hexExponent = minus ++ power := by
    unfold intText
    split
    · exact ⟨[.char '-'], _, .inr rfl, Text.digits_ne_nil,
        fun _ => isAsciiDigit_of_mem_natText, rfl⟩
    · exact ⟨[], _, .inl rfl, Text.digits_ne_nil, fun _ => isAsciiDigit_of_mem_natText, rfl⟩
  rw [hexText_of_isFinite h, htext]
  refine .mk ?_ ?_ x.hexPart_ne_nil (fun _ => mem_hexDigits_of_mem_hexPart)
    eq_of_getLast?_hexPart hminus hpower hdigits
  · cases x.negative <;> simp
  · by_cases hzero : x.exponent.val = 0 <;> simp [hzero]

/-- The bit before the point: numbers below the least normal one have none. -/
def leadingBit (x : Binary64) : Nat := if x.exponent.val = 0 then 0 else 1

theorem magnitude_eq (x : Binary64) :
    x.magnitude = (x.leadingBit + x.fraction.val / 16 ^ 13) * 2 ^ x.hexExponent := by
  have hshift : ∀ e : Int, (2 : ℚ) ^ e = 2 ^ (e - 52) * 16 ^ 13 := by
    intro e
    have hpower : (16 : ℚ) ^ 13 = 2 ^ (52 : Int) := by norm_num
    rw [hpower, ← zpow_add₀ two_ne_zero, Int.sub_add_cancel]
  have hvalue : x.significand = x.leadingBit * 16 ^ 13 + x.fraction.val := by
    unfold significand leadingBit
    split
    · omega
    · omega
  unfold magnitude
  rw [hshift x.hexExponent]
  by_cases hfraction : x.exponent.val = 0 ∧ x.fraction.val = 0
  · simp [hvalue, leadingBit, hfraction]
  · have hscale : x.scale = x.hexExponent - 52 := by
      unfold scale hexExponent
      split
      · rename_i hzero
        rw [if_neg fun h => hfraction ⟨hzero, h⟩]
        rfl
      · omega
    rw [hvalue, hscale]
    push_cast
    field_simp
    norm_num

theorem numeral?_hexPart (x : Binary64) :
    ∃ n, numeral? 16 (.char (if x.exponent.val = 0 then '0' else '1') :: x.hexPart) = some n ∧
      (n : ℚ) / 16 ^ x.hexPart.length = x.leadingBit + x.fraction.val / 16 ^ 13 := by
  obtain ⟨n, hn, hfraction⟩ := x.exists_foldlM_hexPart
  have hbit : readDigit? 16 0 (.char (if x.exponent.val = 0 then '0' else '1')) =
      some x.leadingBit := by
    unfold leadingBit
    split
    · decide
    · decide
  refine ⟨x.leadingBit * 16 ^ x.hexPart.length + n, ?_, ?_⟩
  · rw [numeral?, if_neg (by simp), List.foldlM_cons, hbit, Option.bind_eq_bind, Option.bind_some]
    exact foldlM_readDigit?_from hn _
  · have hratio : (n : ℚ) * 16 ^ 13 = x.fraction.val * 16 ^ x.hexPart.length := by
      exact_mod_cast hfraction
    push_cast
    field_simp
    linear_combination hratio

/-- Read back, the text is the number. -/
theorem readHexFloat?_hexText (h : x.isFinite = true) :
    readHexFloat? x.hexText = some (x.negative, x.magnitude) := by
  have hsign : ∀ t, splitSign ((if x.negative then [.char '-'] else []) ++ .char '0' :: t) =
      (x.negative, .char '0' :: t) := by
    intro t
    cases x.negative <;> rfl
  have hpart : ∀ c ∈ x.hexPart, decide (c ≠ 'p') = true := by
    intro c hc
    have hall : "0123456789abcdef".toText.all (fun d => decide (d ≠ 'p')) = true := by decide
    exact List.all_eq_true.1 hall c (mem_hexDigits_of_mem_hexPart hc)
  have hstop : ∀ c ∈ (.char 'p' :: intText x.hexExponent).head?,
      decide (c ≠ .char 'p') = false := by
    rintro c ⟨⟩
    rfl
  obtain ⟨n, hn, hvalue⟩ := x.numeral?_hexPart
  rw [hexText_of_isFinite h, readHexFloat?]
  simp only [hsign, Text.takeWhile_append_of_stop hpart hstop,
    Text.dropWhile_append_of_stop hpart hstop, List.drop_one, List.tail_cons, hn,
    integer?_intText, hvalue, magnitude_eq]

/-! ## Numbers with one magnitude -/

/-- The place of the lowest bit: numbers below the least normal one share that of the normal numbers
with the least exponent. -/
theorem scale_eq (x : Binary64) : x.scale = (max x.exponent.val 1 : Nat) - 1075 := by
  unfold scale
  split
  · rename_i hzero
    rw [hzero]
    rfl
  · omega

theorem significand_lt (x : Binary64) : x.significand < 2 ^ 53 := by
  have hfraction := x.fraction.isLt
  unfold significand
  split
  · omega
  · omega

theorem le_significand_of_scale_lt (h : x.scale < y.scale) : 2 ^ 52 ≤ y.significand := by
  rw [scale_eq, scale_eq] at h
  unfold significand
  rw [if_neg (by omega)]
  omega

/-- A significand is less than twice one with its highest bit, so that a lower place cannot make up
for a greater significand. -/
theorem not_scale_lt_of_magnitude_eq (h : x.magnitude = y.magnitude) : ¬ x.scale < y.scale := by
  intro hscale
  obtain ⟨k, hk⟩ : ∃ k : Nat, y.scale = x.scale + (k + 1 : Nat) :=
    ⟨(y.scale - x.scale - 1).toNat, by omega⟩
  have hratio : (x.significand : ℚ) = y.significand * 2 ^ (k + 1) := by
    have hpower : (2 : ℚ) ^ x.scale ≠ 0 := zpow_ne_zero _ two_ne_zero
    refine mul_right_cancel₀ hpower ?_
    rw [magnitude, magnitude, hk, zpow_add₀ two_ne_zero, zpow_natCast] at h
    rw [h]
    ring
  have hvalue : x.significand = y.significand * 2 ^ (k + 1) := by exact_mod_cast hratio
  have hlow := le_significand_of_scale_lt hscale
  have hhigh := x.significand_lt
  have hpositive : 1 ≤ 2 ^ k := Nat.one_le_two_pow
  rw [pow_succ] at hvalue
  nlinarith

theorem eq_of_magnitude_eq (hsign : x.negative = y.negative) (h : x.magnitude = y.magnitude) :
    x = y := by
  have hscale : x.scale = y.scale :=
    le_antisymm (Int.not_lt.1 (not_scale_lt_of_magnitude_eq h.symm))
      (Int.not_lt.1 (not_scale_lt_of_magnitude_eq h))
  have hsignificand : x.significand = y.significand := by
    have hpower : (2 : ℚ) ^ y.scale ≠ 0 := zpow_ne_zero _ two_ne_zero
    rw [magnitude, magnitude, hscale] at h
    exact_mod_cast mul_right_cancel₀ hpower h
  have hexponent : x.exponent.val = y.exponent.val ∧ x.fraction.val = y.fraction.val := by
    have hx := x.fraction.isLt
    have hy := y.fraction.isLt
    rw [scale_eq, scale_eq] at hscale
    unfold significand at hsignificand
    split at hsignificand
    · split at hsignificand
      · omega
      · omega
    · split at hsignificand
      · omega
      · omega
  cases x
  cases y
  simp only [mk.injEq]
  exact ⟨hsign, Fin.ext hexponent.1, Fin.ext hexponent.2⟩

end Binary64

end Number

namespace Printf

open Number

theorem format_hexFloat_eq (x : Binary64) : format "%a".toText (.float x) = .ok x.hexText := by
  have hparse : Specifier.parse? "%a".toText = some ⟨none, [], none, 'a', .hexFloat⟩ := by decide
  have hlower : Specifier.isUpper ⟨none, [], none, 'a', .hexFloat⟩ = false := by decide
  rw [format, hparse]
  simp [formatWith, formatWith.float, formatHexFloat, pad, hlower]

/-- The hexadecimal conversion of a finite floating point number is exact. Its text has the form of
a hexadecimal numeral without needless zeros, it is read back as the number's sign and magnitude,
and no other finite number has it; so the two zeros have different texts. -/
theorem format_hexFloat {x : Binary64} (h : x.isFinite = true) :
    ∃ t, format "%a".toText (.float x) = .ok t ∧ IsHexFloat t ∧
      readHexFloat? t = some (x.negative, x.magnitude) ∧
      ∀ y : Binary64, y.isFinite = true → format "%a".toText (.float y) = .ok t → y = x := by
  refine ⟨x.hexText, format_hexFloat_eq x, Binary64.isHexFloat_hexText h,
    Binary64.readHexFloat?_hexText h, fun y hy hformat => ?_⟩
  rw [format_hexFloat_eq, Except.ok.injEq] at hformat
  have hread := Binary64.readHexFloat?_hexText hy
  rw [hformat, Binary64.readHexFloat?_hexText h, Option.some.injEq, Prod.mk.injEq] at hread
  exact Binary64.eq_of_magnitude_eq hread.1.symm hread.2.symm

/-- The negative number next to zero is `-(2 ^ -1074)`, with thirteen digits behind the point. -/
theorem format_hexFloat_subnormal :
    let x : Binary64 := ⟨true, 0, 1⟩
    x.isFinite = true ∧ format "%a".toText (.float x) = .ok "-0x0.0000000000001p-1022".toText ∧
      readHexFloat? "-0x0.0000000000001p-1022".toText = some (true, 1 * 2 ^ (-1074 : Int)) := by
  intro x
  have hfinite : x.isFinite = true := by decide
  have hformat : format "%a".toText (.float x) = .ok "-0x0.0000000000001p-1022".toText := by
    decide +kernel
  obtain ⟨t, ht, -, hread, -⟩ := format_hexFloat hfinite
  cases hformat.symm.trans ht
  refine ⟨hfinite, hformat, hread.trans ?_⟩
  simp [x, Binary64.magnitude, Binary64.significand, Binary64.scale]

end Printf

end BraceTemplate
