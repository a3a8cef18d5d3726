import BraceTemplate.Number.Integer
import BraceTemplate.Text.Quoted
import Mathlib.Data.List.Basic
import Mathlib.Data.Nat.Digits.Defs

/-!
# BraceTemplate.Proofs.Digits

The digits of a natural number. In decimal they are ASCII digits without a leading zero, and denote
the number (`digitsValue_natText`); a code unit has four hexadecimal digits (`hexDigits_four`).
-/

namespace BraceTemplate

namespace Text

theorem isAsciiDigit_iff {c : CodePoint} :
    isAsciiDigit c = true ↔ 48 ≤ c.toNat ∧ c.toNat ≤ 57 := by
  rw [isAsciiDigit, Bool.and_eq_true, decide_eq_true_iff, decide_eq_true_iff]
  rfl

theorem isAsciiDigit_char (c : Char) : isAsciiDigit c = c.isDigit := by
  rw [Bool.eq_iff_iff, isAsciiDigit_iff, Char.isDigit_iff_toNat]
  rfl

theorem digitValue?_of_isAsciiDigit {c : CodePoint} (h : isAsciiDigit c = true) :
    digitValue? c = some (c.toNat - 48) := by
  have hbounds := isAsciiDigit_iff.1 h
  have hlt : c.toNat < 128 := by omega
  rw [digitValue?, if_pos hlt, if_pos h]

section

variable {base n : Nat}

theorem digits_ne_nil : digits base n ≠ [] :=
  fun h => Nat.toDigits_ne_nil (List.map_eq_nil_iff.1 h)

theorem digits_eq_if (h : 1 < base) :
    digits base n =
      if n < base then [.char n.digitChar]
      else digits base (n / base) ++ [.char (n % base).digitChar] := by
  rw [digits, Nat.toDigits_eq_if h]
  split
  · rfl
  · exact ofChars_append _ _

theorem length_digits_le_iff {k : Nat} (h : 1 < base) (hk : 0 < k) :
    (digits base n).length ≤ k ↔ n < base ^ k := by
  rw [digits, length_ofChars]
  exact Nat.length_toDigits_le_iff h hk

end

/-- The last digit behind those of the rest of the number. -/
theorem hexDigits_succ {k : Nat} (hk : 0 < k) (n : Nat) :
    hexDigits (k + 1) n = hexDigits k (n / 16) ++ [.char (n % 16).digitChar] := by
  simp only [hexDigits]
  rw [digits_eq_if (n := n) (by decide)]
  split
  · rename_i hlt
    have hzeros : List.replicate k (CodePoint.char '0') =
        List.replicate (k - 1) (.char '0') ++ [.char '0'] := by
      rw [← List.replicate_succ', Nat.sub_add_cancel hk]
    have hzero : digits 16 0 = [.char '0'] := rfl
    rw [Nat.div_eq_of_lt hlt, Nat.mod_eq_of_lt hlt, hzero, List.length_singleton,
      List.length_singleton, Nat.add_sub_cancel, hzeros]
  · rw [List.length_append, List.length_singleton, Nat.add_sub_add_right, List.append_assoc]

theorem hexDigits_four {n : Nat} (h : n < 65536) :
    hexDigits 4 n = [.char (Nat.digitChar (n / 4096)), .char (Nat.digitChar (n / 256 % 16)),
      .char (Nat.digitChar (n / 16 % 16)), .char (Nat.digitChar (n % 16))] := by
  have hfirst : hexDigits 1 (n / 4096) = [.char (Nat.digitChar (n / 4096))] := by
    rw [hexDigits, digits_eq_if (by decide), if_pos (by omega)]
    rfl
  have hsecond : n / 16 / 16 = n / 256 := Nat.div_div_eq_div_mul n 16 16
  have hthird : n / 256 / 16 = n / 4096 := Nat.div_div_eq_div_mul n 256 16
  rw [hexDigits_succ (by decide), hexDigits_succ (by decide), hexDigits_succ (by decide), hsecond,
    hthird, hfirst]
  rfl

theorem hexValue?_digitChar {k : Nat} (h : k < 16) : hexValue? k.digitChar = some k := by
  have hall : ∀ k : Fin 16, hexValue? k.val.digitChar = some k.val := by decide
  exact hall ⟨k, h⟩

end Text

namespace Number

theorem isAsciiDigit_of_mem_natText {n : Nat} {c : CodePoint} (h : c ∈ natText n) :
    Text.isAsciiDigit c = true := by
  obtain ⟨d, hd, rfl⟩ := List.mem_map.1 h
  rw [Text.isAsciiDigit_char]
  exact Nat.isDigit_of_mem_toDigits (by decide) (by decide) hd

theorem exists_natText_eq_cons (n : Nat) :
    ∃ d ds, natText n = d :: ds ∧ Text.isAsciiDigit d = true := by
  obtain ⟨d, ds, h⟩ : ∃ d ds, natText n = d :: ds := List.exists_cons_of_ne_nil Text.digits_ne_nil
  exact ⟨d, ds, h, isAsciiDigit_of_mem_natText (h ▸ List.mem_cons_self)⟩

theorem digitsValue_natText (n : Nat) : digitsValue (natText n) = n := by
  have hsame : digitsValue (natText n) = Nat.ofDigitChars 10 (Nat.toDigits 10 n) 0 := by
    rw [digitsValue, natText, Text.digits, Text.ofChars, List.foldl_map]
    refine List.foldl_ext _ _ _ fun m c hc => ?_
    have hdigit := Text.digitValue?_of_isAsciiDigit
      (isAsciiDigit_of_mem_natText (List.mem_map_of_mem hc))
    simp only [digitsValue.digitValue, hdigit]
    rfl
  rw [hsame]
  exact Nat.ofDigitChars_ten_toDigits

theorem head?_natText_ne {n : Nat} (h : n ≠ 0) : (natText n).head? ≠ some (.char '0') := by
  induction n using Nat.strongRecOn with
  | ind n ih =>
    rw [natText, Text.digits_eq_if (by decide)]
    split
    · rename_i hlt
      have hall : ∀ k : Fin 10, k.val ≠ 0 → k.val.digitChar ≠ '0' := by decide
      simpa using hall ⟨n, hlt⟩ h
    · rename_i hge
      have hrest := ih (n / 10) (by omega) (by omega)
      rwa [List.head?_append_of_ne_nil _ Text.digits_ne_nil]

theorem length_natText_le_iff {n : Nat} : (natText n).length ≤ maxDigits ↔ n < 10 ^ maxDigits :=
  Text.length_digits_le_iff (by decide) (by decide)

theorem decimalText_natCast (n : Nat) :
    decimalText n = if n < 10 ^ maxDigits then .ok (natText n) else .error .tooManyDigits := by
  have hsign : ¬ (n : Int) < 0 := by omega
  simp only [decimalText, Int.natAbs_natCast, if_neg hsign, ← length_natText_le_iff]
  split
  · rw [if_neg (by omega)]
  · rw [if_pos (by omega)]

end Number

end BraceTemplate
