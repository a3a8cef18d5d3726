/-!
# BraceTemplate.Text.CodePoint

A code point is a character or a surrogate. A text read from a file has characters only, but a
conversion or an escape can make a surrogate, and then it stays one until the text is encoded.

Code points stand in the order of their numbers, and `CodePoint.ofNat` gives each number below
0x110000 its code point (`CodePoint.toNat_ofNat`).
-/

namespace BraceTemplate

inductive CodePoint where
  | char (c : Char)
  | surrogate (offset : Fin 2048)
deriving DecidableEq, Repr

namespace CodePoint

instance : Coe Char CodePoint := ⟨.char⟩

instance : Inhabited CodePoint := ⟨.char default⟩

def toNat : CodePoint → Nat
  | .char c => c.toNat
  | .surrogate offset => 0xd800 + offset

/-- The code point of a number; the null character for a number past the last one. -/
def ofNat (n : Nat) : CodePoint :=
  if h : 0xd800 ≤ n ∧ n < 0xe000 then .surrogate ⟨n - 0xd800, by omega⟩ else .char (Char.ofNat n)

instance : LE CodePoint := ⟨fun a b => a.toNat ≤ b.toNat⟩

instance (a b : CodePoint) : Decidable (a ≤ b) := inferInstanceAs (Decidable (a.toNat ≤ b.toNat))

instance : LT CodePoint := ⟨fun a b => a.toNat < b.toNat⟩

instance (a b : CodePoint) : Decidable (a < b) := inferInstanceAs (Decidable (a.toNat < b.toNat))

def isSurrogate : CodePoint → Bool
  | .char _ => false
  | .surrogate _ => true

/-- Lower case of an ASCII letter, every other code point as it is. -/
def toLower : CodePoint → CodePoint
  | .char c => .char c.toLower
  | .surrogate offset => .surrogate offset

/-- Upper case of an ASCII letter, every other code point as it is. -/
def toUpper : CodePoint → CodePoint
  | .char c => .char c.toUpper
  | .surrogate offset => .surrogate offset

def isUpper : CodePoint → Bool
  | .char c => c.isUpper
  | .surrogate _ => false

/-- The character, or the replacement character in the place of a surrogate. -/
def toChar : CodePoint → Char
  | .char c => c
  | .surrogate _ => Char.ofNat 0xfffd

@[simp] theorem toNat_char (c : Char) : (char c).toNat = c.toNat := rfl

@[simp] theorem toNat_surrogate (k : Fin 2048) : (surrogate k).toNat = 0xd800 + k := rfl

@[simp] theorem toLower_char (c : Char) : (char c).toLower = .char c.toLower := rfl

@[simp] theorem toUpper_char (c : Char) : (char c).toUpper = .char c.toUpper := rfl

@[simp] theorem isSurrogate_char (c : Char) : (char c).isSurrogate = false := rfl

@[simp] theorem isSurrogate_surrogate (k : Fin 2048) : (surrogate k).isSurrogate = true := rfl

theorem toNat_char_lt_or_le (c : Char) :
    c.toNat < 0xd800 ∨ 0xe000 ≤ c.toNat ∧ c.toNat < 0x110000 := by
  have h := c.valid
  simp only [UInt32.isValidChar, Nat.isValidChar] at h
  have htoNat : c.toNat = c.val.toNat := rfl
  omega

theorem isSurrogate_iff {c : CodePoint} :
    c.isSurrogate = true ↔ 0xd800 ≤ c.toNat ∧ c.toNat < 0xe000 := by
  cases c with
  | char c =>
    have := toNat_char_lt_or_le c
    simp only [isSurrogate, toNat_char]
    constructor
    · nofun
    · omega
  | surrogate k =>
    simp only [isSurrogate, toNat_surrogate, true_iff]
    omega

theorem isSurrogate_ofNat {n : Nat} (h : n < 0xd800 ∨ 0xe000 ≤ n) :
    (ofNat n).isSurrogate = false := by
  rw [ofNat, dif_neg (by omega)]
  rfl

theorem exists_eq_surrogate {c : CodePoint} (hlow : 0xd800 ≤ c.toNat)
    (hhigh : c.toNat < 0xe000) : ∃ k, c = .surrogate k := by
  have h := isSurrogate_iff.2 ⟨hlow, hhigh⟩
  cases c with
  | char c => cases h
  | surrogate k => exact ⟨k, rfl⟩

theorem toNat_lt (c : CodePoint) : c.toNat < 0x110000 := by
  cases c with
  | char c => have := toNat_char_lt_or_le c; simp only [toNat_char]; omega
  | surrogate k => simp only [toNat_surrogate]; omega

theorem toNat_ofNat {n : Nat} (h : n < 0x110000) : (ofNat n).toNat = n := by
  rw [ofNat]
  split
  next hs => simp only [toNat_surrogate]; omega
  next hs =>
    have hvalid : n.isValidChar := by simp only [Nat.isValidChar]; omega
    rw [toNat_char, Char.ofNat, dif_pos hvalid]
    exact BitVec.toNat_ofNatLT ..

theorem toNat_inj {a b : CodePoint} : a.toNat = b.toNat ↔ a = b := by
  refine ⟨fun h => ?_, congrArg toNat⟩
  cases a with
  | char a =>
    cases b with
    | char b => rw [Char.toNat_inj.1 h]
    | surrogate k =>
      have := toNat_char_lt_or_le a
      simp only [toNat_char, toNat_surrogate] at h
      omega
  | surrogate k =>
    cases b with
    | char b =>
      have := toNat_char_lt_or_le b
      simp only [toNat_char, toNat_surrogate] at h
      omega
    | surrogate l =>
      simp only [toNat_surrogate] at h
      rw [Fin.ext (Nat.add_left_cancel h)]

theorem ofNat_toNat (c : CodePoint) : ofNat c.toNat = c := toNat_inj.1 (toNat_ofNat c.toNat_lt)

end CodePoint

end BraceTemplate
