import BraceTemplate.Proofs.FormatEnds
import Mathlib.Algebra.BigOperators.Fin
import Mathlib.Data.Nat.ModEq

/-!
# BraceTemplate.Proofs.HashCode

The hash code of a value, which is a word of 32 bits, and its text.

* `hashUnits_eq_sum`: reducing at every step gives what the unbounded polynomial over the code units
  gives when it is reduced once.
* `hashInteger_eq_toNat`, `hashInteger_eq_xor`: integers by the words of their two's complement.
* `format_hash`: together, with the text of one to eight hexadecimal digits.
-/

namespace BraceTemplate.Printf

open BigOperators

/-! ## Texts -/

/-- The polynomial in 31 over the units, the first unit having the highest power. -/
def unitSum (units : List Nat) : Nat :=
  ∑ i : Fin units.length, units[i] * 31 ^ (units.length - 1 - i)

theorem unitSum_cons (u : Nat) (units : List Nat) :
    unitSum (u :: units) = u * 31 ^ units.length + unitSum units := by
  have hpower : ∀ i : Fin units.length,
      (u :: units).length - 1 - (i.succ : Nat) = units.length - 1 - i := by
    intro i
    simp only [List.length_cons, Fin.val_succ]
    omega
  unfold unitSum
  refine (Fin.sum_univ_succ _).trans ?_
  simp only [hpower]
  rfl

/-- What one unit does to the code. -/
def hashStep (code u : Nat) : Nat := (31 * code + u) % wordSize

theorem hashUnits_eq_foldl (units : List Nat) : hashUnits units = units.foldl hashStep 0 := rfl

/-- From any code on, by induction on the units. What is dropped at a step is a multiple of the word
size, and so are all its later multiples. -/
theorem foldl_hashStep_modEq (units : List Nat) (code : Nat) :
    units.foldl hashStep code ≡ code * 31 ^ units.length + unitSum units [MOD wordSize] := by
  induction units generalizing code with
  | nil => simp [unitSum, Nat.ModEq.refl]
  | cons u units ih =>
    have hstep : hashStep code u ≡ 31 * code + u [MOD wordSize] := Nat.mod_modEq _ _
    calc (u :: units).foldl hashStep code
        ≡ hashStep code u * 31 ^ units.length + unitSum units [MOD wordSize] := ih _
      _ ≡ (31 * code + u) * 31 ^ units.length + unitSum units [MOD wordSize] :=
        (hstep.mul_right _).add_right _
      _ = code * 31 ^ (u :: units).length + unitSum (u :: units) := by
        rw [unitSum_cons, List.length_cons, pow_succ]
        ring

theorem hashUnits_lt (units : List Nat) : hashUnits units < wordSize := by
  induction units using List.reverseRecOn with
  | nil => decide
  | append_singleton units u _ =>
    rw [hashUnits_eq_foldl, List.foldl_concat]
    exact Nat.mod_lt _ (by decide)

theorem hashUnits_eq_sum (units : List Nat) : hashUnits units = unitSum units % wordSize := by
  have h := foldl_hashStep_modEq units 0
  rw [Nat.zero_mul, Nat.zero_add] at h
  exact (Nat.mod_eq_of_lt (hashUnits_lt units)).symm.trans h

theorem hashUnits_append (units others : List Nat) :
    hashUnits (units ++ others) =
      (hashUnits units * 31 ^ others.length + hashUnits others) % wordSize := by
  have h := foldl_hashStep_modEq others (hashUnits units)
  have hothers : unitSum others ≡ hashUnits others [MOD wordSize] := by
    rw [hashUnits_eq_sum]
    exact (Nat.mod_modEq _ _).symm
  have happend : hashUnits (units ++ others) = others.foldl hashStep (hashUnits units) :=
    List.foldl_append
  rw [← happend] at h
  rw [← Nat.mod_eq_of_lt (hashUnits_lt (units ++ others))]
  exact h.trans (hothers.add_left _)

theorem hashText_eq_ok_iff {t : Text} {n : Nat} :
    hashText t = .ok n ↔ t.IsScalar ∧ hashUnits (t.flatMap Codec.Utf16.encodeChar) = n := by
  rw [hashText, Codec.Utf16.encode]
  split
  · rename_i h
    simp [h, Except.map]
  · rename_i h
    simp [h, Except.map]

theorem exists_encode_eq {t : Text} (h : t.IsScalar) :
    ∃ units, Codec.Utf16.encode t = .ok units ∧ hashText t = .ok (unitSum units % wordSize) :=
  ⟨_, if_pos h, hashText_eq_ok_iff.2 ⟨h, hashUnits_eq_sum _⟩⟩

theorem hashText_append {t u : Text} {m n : Nat} {units : List Nat} (ht : hashText t = .ok m)
    (hu : hashText u = .ok n) (hunits : Codec.Utf16.encode u = .ok units) :
    hashText (t ++ u) = .ok ((m * 31 ^ units.length + n) % wordSize) := by
  obtain ⟨hscalar, rfl⟩ := hashText_eq_ok_iff.1 ht
  obtain ⟨hscalar', rfl⟩ := hashText_eq_ok_iff.1 hu
  rw [Codec.Utf16.encode, if_pos hscalar'] at hunits
  cases hunits
  refine hashText_eq_ok_iff.2 ⟨List.forall_mem_append.2 ⟨hscalar, hscalar'⟩, ?_⟩
  rw [List.flatMap_append]
  exact hashUnits_append _ _

/-! ## Integers -/

/-- An integer of 32 bits. -/
def IsShort (i : Int) : Prop := -2 ^ 31 ≤ i ∧ i < 2 ^ 31

theorem hashInteger_eq_toNat {i : Int} (h : IsShort i) :
    hashInteger i = (BitVec.ofInt 32 i).toNat := by
  unfold IsShort at h
  rw [hashInteger, if_pos (by omega), BitVec.toNat_ofInt]
  rfl

theorem hashInteger_eq_xor {i : Int} (h : ¬ IsShort i) :
    hashInteger i =
      ((BitVec.ofInt 64 i).extractLsb' 0 32 ^^^ (BitVec.ofInt 64 i).extractLsb' 32 32).toNat := by
  unfold IsShort at h
  have hlow : ((BitVec.ofInt 64 i).extractLsb' 0 32).toNat = (i % wordSize).toNat := by
    simp only [BitVec.extractLsb'_toNat, BitVec.toNat_ofInt, Nat.shiftRight_eq_div_pow, wordSize]
    omega
  have hhigh : ((BitVec.ofInt 64 i).extractLsb' 32 32).toNat =
      ((i / wordSize) % wordSize).toNat := by
    simp only [BitVec.extractLsb'_toNat, BitVec.toNat_ofInt, Nat.shiftRight_eq_div_pow, wordSize]
    omega
  rw [hashInteger, if_neg (by omega), BitVec.toNat_xor, hlow, hhigh]
  rfl

theorem hashInteger_lt (i : Int) : hashInteger i < wordSize := by
  by_cases h : IsShort i
  · rw [hashInteger_eq_toNat h]
    exact BitVec.isLt _
  · rw [hashInteger_eq_xor h]
    exact BitVec.isLt _

/-! ## All values -/

theorem bits_lt (x : Number.Binary64) : x.bits < 2 ^ 64 := by
  have hexponent := x.exponent.isLt
  have hfraction := x.fraction.isLt
  unfold Number.Binary64.bits
  split
  · omega
  · omega

theorem hashValue_lt {v : Value} {n : Nat} (h : hashValue v = .ok n) : n < wordSize := by
  unfold hashValue at h
  split at h
  · cases h
    split
    · decide
    · decide
  · cases h
    exact hashInteger_lt _
  · rename_i x
    cases h
    have hhigh : x.bits / wordSize < wordSize := by
      have hbits := bits_lt x
      unfold wordSize
      omega
    exact Nat.xor_lt_two_pow (n := 32) (Nat.mod_lt _ (by decide)) hhigh
  · split at h
    · cases h
    · obtain ⟨-, rfl⟩ := hashText_eq_ok_iff.1 h
      exact hashUnits_lt _

/-! ## The conversion -/

theorem formatWith_of_hash {s : Specifier} (h : s.conversion = .hash) (raw : Text) (v : Value) :
    formatWith raw s v = formatGeneral raw s v := by
  simp only [formatWith, h]

theorem format_of_hashValue {spec : Text} {s : Specifier}
    (hparse : Specifier.parse? spec = some s) (hconversion : s.conversion = .hash)
    (hlower : s.isUpper = false) (hplain : s.IsPlain) (hwidth : s.width = [])
    (hprecision : s.precision = none) {v : Value} (hv : v ≠ .none) :
    format spec v =
      match hashValue v with
      | .error f => .error (.fault f)
      | .ok n => .ok (.digits 16 n) := by
  have hvalue : generalValue spec .hash v =
      match hashValue v with
      | .error f => .error (.fault f)
      | .ok n => .ok (.digits 16 n) := by
    cases v with
    | none => exact absurd rfl hv
    | _ => rfl
  rw [format, hparse]
  simp only
  rw [formatWith_of_hash hconversion, formatGeneral_of_isPlain hplain, formatGeneral.body,
    hconversion, hvalue]
  cases hashValue v with
  | error f => rfl
  | ok n => simp [hprecision, formatGeneral.finish, hlower, hwidth, pad]

theorem length_digits_of_lt {n : Nat} (h : n < wordSize) :
    1 ≤ (Text.digits 16 n).length ∧ (Text.digits 16 n).length ≤ 8 :=
  ⟨List.length_pos_of_ne_nil Text.digits_ne_nil,
    (Text.length_digits_le_iff (by decide) (by decide)).2 h⟩

/-- The hash code of a text is a polynomial over its code units, though each step is reduced; so the
code of two texts in a row comes from the codes of both. An integer of 32 bits has its machine word
as its code, and a longer one of 64 bits the exclusive or of the two halves of its machine word. The
conversion writes the code of every value but the absent one, as a numeral of one to eight
hexadecimal digits. It faults on a value whose text is hashed and that holds an integer of too many
digits, on a text with a surrogate in it, and on no other. -/
theorem format_hash {spec : Text} {s : Specifier}
    (hparse : Specifier.parse? spec = some s) (hconversion : s.conversion = .hash)
    (hlower : s.isUpper = false) (hplain : s.IsPlain) (hwidth : s.width = [])
    (hprecision : s.precision = none) :
    (∀ t : Text, t.IsScalar → ∃ units, Codec.Utf16.encode t = .ok units ∧
      hashValue (.text t) = .ok (unitSum units % 2 ^ 32)) ∧
    (∀ t u : Text, t.IsScalar → u.IsScalar → ∃ m n units, hashText t = .ok m ∧
      hashText u = .ok n ∧ Codec.Utf16.encode u = .ok units ∧
      hashText (t ++ u) = .ok ((m * 31 ^ units.length + n) % 2 ^ 32)) ∧
    (∀ i, IsShort i → hashValue (.int i) = .ok (BitVec.ofInt 32 i).toNat) ∧
    (∀ i, ¬ IsShort i → -2 ^ 63 ≤ i ∧ i < 2 ^ 63 →
      let word := BitVec.ofInt 64 i
      hashValue (.int i) = .ok (word.extractLsb' 0 32 ^^^ word.extractLsb' 32 32).toNat) ∧
    ∀ v : Value, v ≠ .none →
      ((∀ i, v ≠ .int i) → v.IsOverlong → format spec v = .error (.fault .tooManyDigits)) ∧
      (v.IsUnencodable → format spec v = .error (.fault .loneSurrogate)) ∧
      (¬ ((∀ i, v ≠ .int i) ∧ v.IsOverlong) → ¬ v.IsUnencodable → ∃ n digits, hashValue v = .ok n ∧
        format spec v = .ok digits ∧ Number.numeral? 16 digits = some n ∧
        1 ≤ digits.length ∧ digits.length ≤ 8) := by
  refine ⟨fun t => exists_encode_eq, fun t u ht hu => ?_, fun i hi => ?_, fun i hi _ => ?_,
    fun v hv => ?_⟩
  · obtain ⟨_, -, ht⟩ := exists_encode_eq ht
    obtain ⟨units, hunits, hu⟩ := exists_encode_eq hu
    exact ⟨_, _, units, ht, hu, hunits, hashText_append ht hu hunits⟩
  · exact congrArg Except.ok (hashInteger_eq_toNat hi)
  · exact congrArg Except.ok (hashInteger_eq_xor hi)
  · rw [format_of_hashValue hparse hconversion hlower hplain hwidth hprecision hv]
    refine ⟨fun hint hlong => ?_, fun hsurrogate => ?_, fun hshort hencodable => ?_⟩
    · rw [hashValue_eq_error_iff.2 (.inl ⟨rfl, hint, hlong⟩)]
    · rw [hashValue_eq_error_iff.2 (.inr ⟨rfl, hsurrogate⟩)]
    · cases hn : hashValue v with
      | error f =>
        rcases hashValue_eq_error_iff.1 hn with ⟨-, hlong⟩ | ⟨-, hsurrogate⟩
        · exact absurd hlong hshort
        · exact absurd hsurrogate hencodable
      | ok n =>
        have hnumeral := Number.numeral?_digits Number.keepsDigits_id (by decide) le_rfl n
        rw [List.map_id] at hnumeral
        exact ⟨n, _, rfl, rfl, hnumeral, length_digits_of_lt (hashValue_lt hn)⟩

/-- A character of two code units, the least short integer, an integer with different halves, and a
list that holds an integer of too many digits. -/
theorem format_hash_emoji :
    let s : Specifier := ⟨none, [], none, 'h', .hash⟩
    let large := Value.list [.int (10 ^ Number.maxDigits : Nat)]
    Specifier.parse? "%h".toText = some s ∧ s.IsPlain ∧
      hashValue (.text ['😀']) = .ok ((0xd83d * 31 + 0xde00) % 2 ^ 32) ∧
      IsShort (-2 ^ 31) ∧ hashValue (.int (-2 ^ 31)) = .ok 0x80000000 ∧
      ¬ IsShort (-2 ^ 40 + 1) ∧ hashValue (.int (-2 ^ 40 + 1)) = .ok (0x1 ^^^ 0xffffff00) ∧
      (∃ digits, format "%h".toText (.text ['😀']) = .ok digits ∧
        Number.numeral? 16 digits = some 0x1b0d63) ∧
      large.IsOverlong ∧ format "%h".toText large = .error (.fault .tooManyDigits) := by
  intro s large
  have hparse : Specifier.parse? "%h".toText = some s := by decide
  have hshort : IsShort (-2 ^ 31) := by unfold IsShort; decide
  have hlong : ¬ IsShort (-2 ^ 40 + 1) := by unfold IsShort; decide
  have hlarge : large.IsOverlong :=
    ⟨_, .list List.mem_cons_self .int, Number.isOverlong_natCast_iff.2 (Nat.le_refl _)⟩
  have hemoji : ¬ (Value.text ['😀']).IsOverlong := by
    rintro ⟨i, hi, -⟩
    cases hi
  have hscalar : ¬ (Value.text ['😀']).IsUnencodable := by
    rintro ⟨t, ⟨⟩, ht⟩
    exact ht (by decide)
  obtain ⟨htext, -, hword, hwords, hformat⟩ :=
    format_hash hparse rfl (by decide) (.inl rfl) rfl rfl
  obtain ⟨n, digits, hn, hdigits, hnumeral, -⟩ :=
    (hformat (.text ['😀']) nofun).2.2 (fun h => hemoji h.2) hscalar
  obtain ⟨units, hunits, hcode⟩ := htext ['😀'] (by decide)
  have hpair : Codec.Utf16.encode ['😀'] = .ok [0xd83d, 0xde00] := by decide
  cases hpair.symm.trans hunits
  have hcode : hashValue (.text ['😀']) = .ok 0x1b0d63 := hcode.trans (by decide)
  cases hcode.symm.trans hn
  exact ⟨hparse, .inl rfl, hcode.trans (by decide), hshort, (hword _ hshort).trans (by decide),
    hlong, (hwords _ hlong (by decide)).trans (by decide), ⟨digits, hdigits, hnumeral⟩, hlarge,
    (hformat large nofun).1 (fun _ => nofun) hlarge⟩

/-- A list that holds an integer of too many digits has no text that could be hashed. -/
theorem format_hash_overlong :
    format "%h".toText (.list [.int (10 ^ Number.maxDigits : Nat)]) =
        .error (.fault .tooManyDigits) ∧
      ¬ ∀ v : Value, v ≠ .none → ∃ digits, format "%h".toText v = .ok digits ∧
        1 ≤ digits.length ∧ digits.length ≤ 8 := by
  have hlarge : (Value.list [.int (10 ^ Number.maxDigits : Nat)]).IsOverlong :=
    ⟨_, .list List.mem_cons_self .int, Number.isOverlong_natCast_iff.2 (Nat.le_refl _)⟩
  have hne : Value.list [.int (10 ^ Number.maxDigits : Nat)] ≠ .none := nofun
  have hformat : format "%h".toText (.list [.int (10 ^ Number.maxDigits : Nat)]) =
      .error (.fault .tooManyDigits) := by
    rw [format_of_hashValue (s := ⟨none, [], none, 'h', .hash⟩) (by decide) rfl (by decide)
      (.inl rfl) rfl rfl hne, hashValue_eq_error_iff.2 (.inl ⟨rfl, fun i => by rintro ⟨⟩, hlarge⟩)]
  refine ⟨hformat, fun h => ?_⟩
  obtain ⟨digits, hdigits, -⟩ := h _ hne
  cases hformat.symm.trans hdigits

end BraceTemplate.Printf
