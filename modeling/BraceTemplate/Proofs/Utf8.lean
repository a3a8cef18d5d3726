import BraceTemplate.Codec.Utf8
import Mathlib.Data.List.Basic

/-!
# BraceTemplate.Proofs.Utf8

A text without surrogates is read back from its UTF-8 octets (`decode_flatMap_encodeChar`), and no
other text has any (`encode_eq_ok_iff`). The first octet of a character tells how many follow and
which range the second one has; the range shuts out longer forms of smaller characters, surrogates
and what lies above the last character, so the octets of a character are never out of it
(`exists_first_of_three`, `exists_first_of_four`).
-/

namespace BraceTemplate.Codec.Utf8

/-! ## The octets behind the first -/

variable {n owed low high bits b : Nat}

theorem decodeFrom_last (hb : low ≤ b ∧ b ≤ high) (bs : List Nat) :
    decodeFrom (some ⟨1, low, high, bits⟩) (b :: bs) =
      CodePoint.ofNat (bits * 64 + (b - 0x80)) :: decodeFrom none bs := by
  rw [decodeFrom, if_pos hb]
  exact if_pos (Nat.le_refl 1)

theorem decodeFrom_more (howed : 1 < owed) (hb : low ≤ b ∧ b ≤ high) (bs : List Nat) :
    decodeFrom (some ⟨owed, low, high, bits⟩) (b :: bs) =
      decodeFrom (some ⟨owed - 1, 0x80, 0xbf, bits * 64 + (b - 0x80)⟩) bs := by
  rw [decodeFrom, if_pos hb]
  exact if_neg (Nat.not_le.2 howed)

theorem decodeFrom_one (bs : List Nat) :
    decodeFrom (some ⟨1, 0x80, 0xbf, n / 64⟩) ((0x80 + n % 64) :: bs) =
      CodePoint.ofNat n :: decodeFrom none bs := by
  have hbits : n / 64 * 64 + (0x80 + n % 64 - 0x80) = n := by omega
  rw [decodeFrom_last ⟨by omega, by omega⟩, hbits]

theorem decodeFrom_two (h : low ≤ 0x80 + n / 64 % 64 ∧ 0x80 + n / 64 % 64 ≤ high)
    (bs : List Nat) :
    decodeFrom (some ⟨2, low, high, n / 4096⟩) ((0x80 + n / 64 % 64) :: (0x80 + n % 64) :: bs) =
      CodePoint.ofNat n :: decodeFrom none bs := by
  have hbits : n / 4096 * 64 + (0x80 + n / 64 % 64 - 0x80) = n / 64 := by omega
  rw [decodeFrom_more Nat.one_lt_two h, hbits]
  exact decodeFrom_one bs

theorem decodeFrom_three (h : low ≤ 0x80 + n / 4096 % 64 ∧ 0x80 + n / 4096 % 64 ≤ high)
    (bs : List Nat) :
    decodeFrom (some ⟨3, low, high, n / 262144⟩)
        ((0x80 + n / 4096 % 64) :: (0x80 + n / 64 % 64) :: (0x80 + n % 64) :: bs) =
      CodePoint.ofNat n :: decodeFrom none bs := by
  have hbits : n / 262144 * 64 + (0x80 + n / 4096 % 64 - 0x80) = n / 4096 := by omega
  rw [decodeFrom_more (Nat.one_lt_succ_succ 1) h, hbits]
  exact decodeFrom_two ⟨by omega, by omega⟩ bs

/-! ## The first octet -/

theorem first_of_two (hlow : 0x80 ≤ n) (hhigh : n < 0x800) :
    first (0xc0 + n / 64) = .pending ⟨1, 0x80, 0xbf, n / 64⟩ := by
  rw [first, if_neg (by omega), if_neg (by omega), if_pos (by omega), Nat.add_sub_cancel_left]

/-- The second octet lies in the range that the first one asks for: the number has three octets and
is no surrogate. -/
theorem exists_first_of_three (hlow : 0x800 ≤ n) (hhigh : n < 0x10000)
    (hchar : n < 0xd800 ∨ 0xe000 ≤ n) :
    ∃ low high, first (0xe0 + n / 4096) = .pending ⟨2, low, high, n / 4096⟩ ∧
      low ≤ 0x80 + n / 64 % 64 ∧ 0x80 + n / 64 % 64 ≤ high := by
  rw [first, if_neg (by omega), if_neg (by omega), if_neg (by omega)]
  by_cases hzero : n / 4096 = 0
  · rw [if_pos (by omega), hzero]
    exact ⟨0xa0, 0xbf, rfl, by omega, by omega⟩
  · by_cases hsurrogates : n / 4096 = 0xd
    · rw [if_neg (by omega), if_pos (by omega), hsurrogates]
      exact ⟨0x80, 0x9f, rfl, by omega, by omega⟩
    · rw [if_neg (by omega), if_neg (by omega), if_pos (by omega), Nat.add_sub_cancel_left]
      exact ⟨0x80, 0xbf, rfl, by omega, by omega⟩

theorem exists_first_of_four (hlow : 0x10000 ≤ n) (hhigh : n < 0x110000) :
    ∃ low high, first (0xf0 + n / 262144) = .pending ⟨3, low, high, n / 262144⟩ ∧
      low ≤ 0x80 + n / 4096 % 64 ∧ 0x80 + n / 4096 % 64 ≤ high := by
  rw [first, if_neg (by omega), if_neg (by omega), if_neg (by omega), if_neg (by omega),
    if_neg (by omega), if_neg (by omega)]
  by_cases hzero : n / 262144 = 0
  · rw [if_pos (by omega), hzero]
    exact ⟨0x90, 0xbf, rfl, by omega, by omega⟩
  · by_cases hlast : n / 262144 = 4
    · rw [if_neg (by omega), if_neg (by omega), if_pos (by omega), hlast]
      exact ⟨0x80, 0x8f, rfl, by omega, by omega⟩
    · rw [if_neg (by omega), if_pos (by omega), Nat.add_sub_cancel_left]
      exact ⟨0x80, 0xbf, rfl, by omega, by omega⟩

/-! ## Characters and texts -/

theorem decodeFrom_of_pending {b : Nat} {p : Pending} (h : first b = .pending p) (bs : List Nat) :
    decodeFrom none (b :: bs) = decodeFrom (some p) bs := by
  rw [decodeFrom, h]

theorem decodeFrom_encodeChar_append {c : CodePoint} (hc : c.isSurrogate = false) (bs : List Nat) :
    decodeFrom none (encodeChar c ++ bs) = c :: decodeFrom none bs := by
  have hbound := c.toNat_lt
  have hchar : ¬ (0xd800 ≤ c.toNat ∧ c.toNat < 0xe000) := by simp [← CodePoint.isSurrogate_iff, hc]
  conv_rhs => rw [← CodePoint.ofNat_toNat c]
  rw [encodeChar]
  generalize c.toNat = n at hbound hchar
  by_cases hone : n < 0x80
  · rw [if_pos hone, List.singleton_append, decodeFrom, first, if_pos hone]
  · by_cases htwo : n < 0x800
    · rw [if_neg hone, if_pos htwo]
      exact (decodeFrom_of_pending (first_of_two (by omega) htwo) _).trans (decodeFrom_one bs)
    · by_cases hthree : n < 0x10000
      · obtain ⟨low, high, hfirst, hsecond⟩ :=
          exists_first_of_three (by omega) hthree (by omega)
        rw [if_neg hone, if_neg htwo, if_pos hthree]
        exact (decodeFrom_of_pending hfirst _).trans (decodeFrom_two hsecond bs)
      · obtain ⟨low, high, hfirst, hsecond⟩ :=
          exists_first_of_four (n := n) (by omega) (by omega)
        rw [if_neg hone, if_neg htwo, if_neg hthree]
        exact (decodeFrom_of_pending hfirst _).trans (decodeFrom_three hsecond bs)

theorem decode_flatMap_encodeChar {t : Text} (h : t.IsScalar) :
    decode (t.flatMap encodeChar) = t := by
  induction t with
  | nil => rfl
  | cons c t ih =>
    rw [Text.IsScalar, List.forall_mem_cons] at h
    rw [decode, List.flatMap_cons, decodeFrom_encodeChar_append h.1]
    exact congrArg (c :: ·) (ih h.2)

theorem encode_eq_ok_iff {t : Text} {bs : List Nat} :
    encode t = .ok bs ↔ t.IsScalar ∧ t.flatMap encodeChar = bs := by
  rw [encode]
  split
  · rename_i h
    simp [h]
  · rename_i h
    simp [h]

theorem lt_of_mem_encodeChar {c : CodePoint} {b : Nat} (h : b ∈ encodeChar c) : b < 256 := by
  have hbound := c.toNat_lt
  simp only [encodeChar] at h
  split at h
  · rw [List.mem_singleton] at h
    omega
  · split at h
    · simp only [List.mem_cons, List.not_mem_nil, or_false] at h
      omega
    · split at h
      · simp only [List.mem_cons, List.not_mem_nil, or_false] at h
        omega
      · simp only [List.mem_cons, List.not_mem_nil, or_false] at h
        omega

theorem lt_of_mem_flatMap {t : Text} {b : Nat} (h : b ∈ t.flatMap encodeChar) : b < 256 := by
  obtain ⟨c, -, hb⟩ := List.mem_flatMap.1 h
  exact lt_of_mem_encodeChar hb

end BraceTemplate.Codec.Utf8
