import BraceTemplate.Proofs.Application
import BraceTemplate.Proofs.Digits
import BraceTemplate.Proofs.Utf8

/-!
# BraceTemplate.Proofs.Percent

Percent-encoding and its reading. What is written for a character is read as the character's octets
and has no percent sign without two digits behind it, whatever follows (`Reads`); so an encoded text
is read back (`decode_flatMap_encodeChar`). Reading fails exactly on a text with a percent sign that
is bare, and reports the first one (`firstIncomplete?_eq_some_iff`).
-/

namespace BraceTemplate.Codec.Percent

def IsHexDigit (c : CodePoint) : Prop :=
  '0' ≤ c ∧ c ≤ '9' ∨ 'A' ≤ c ∧ c ≤ 'F' ∨ 'a' ≤ c ∧ c ≤ 'f'

instance (c : CodePoint) : Decidable (IsHexDigit c) :=
  inferInstanceAs (Decidable ('0' ≤ c ∧ c ≤ '9' ∨ 'A' ≤ c ∧ c ≤ 'F' ∨ 'a' ≤ c ∧ c ≤ 'f'))

/-- Two hexadecimal digits stand behind the offset. -/
def HasDigits (t : Text) (i : Nat) : Prop :=
  ∃ x ∈ t[i + 1]?, ∃ y ∈ t[i + 2]?, IsHexDigit x ∧ IsHexDigit y

-- Named instances: a search could come upon the one that tries all characters.
instance (t : Text) (i : Nat) : Decidable (HasDigits t i) :=
  @Option.decidableExistsMem _ _ (fun _ => Option.decidableExistsMem _) _

/-- A percent sign without two hexadecimal digits behind it. -/
def IsBare (t : Text) (i : Nat) : Prop := t[i]? = some (.char '%') ∧ ¬ HasDigits t i

instance (t : Text) (i : Nat) : Decidable (IsBare t i) :=
  inferInstanceAs (Decidable (t[i]? = some (.char '%') ∧ ¬ HasDigits t i))

/-! ## The first bare percent sign -/

theorem isSome_hexValue?_iff {c : CodePoint} : (Text.hexValue? c).isSome ↔ IsHexDigit c := by
  unfold Text.hexValue? IsHexDigit Text.isAsciiDigit
  split
  · rename_i h
    simp_all
  · split
    · rename_i h
      simp [h]
    · split
      · rename_i h
        simp [h]
      · simp_all

theorem isSome_escaped?_iff {c : CodePoint} {t : Text} :
    (escaped? t).isSome ↔ HasDigits (c :: t) 0 := by
  unfold HasDigits
  rcases t with _ | ⟨a, _ | ⟨b, t⟩⟩
  · simp [escaped?]
  · simp [escaped?]
  · have ha := isSome_hexValue?_iff (c := a)
    have hb := isSome_hexValue?_iff (c := b)
    rw [escaped?]
    cases hx : Text.hexValue? a <;> cases hy : Text.hexValue? b <;> simp_all

theorem isBare_zero_iff {c : CodePoint} {t : Text} :
    IsBare (c :: t) 0 ↔ c = '%' ∧ (escaped? t).isNone := by
  rw [IsBare, ← isSome_escaped?_iff, Option.not_isSome_iff_eq_none, Option.isNone_iff_eq_none]
  simp

theorem isBare_succ_iff {c : CodePoint} {t : Text} {i : Nat} :
    IsBare (c :: t) (i + 1) ↔ IsBare t i :=
  Iff.rfl

theorem firstIncomplete?_eq_none_iff {t : Text} {k : Nat} :
    firstIncomplete? k t = none ↔ ∀ i, ¬ IsBare t i := by
  induction t generalizing k with
  | nil => simp [firstIncomplete?, IsBare]
  | cons c t ih =>
    rw [firstIncomplete?]
    split
    · rename_i h
      simpa using ⟨0, isBare_zero_iff.2 h⟩
    · rename_i h
      rw [ih]
      constructor
      · rintro hnone (_ | i) hbare
        · exact h (isBare_zero_iff.1 hbare)
        · exact hnone i (isBare_succ_iff.1 hbare)
      · intro hnone i hbare
        exact hnone (i + 1) (isBare_succ_iff.2 hbare)

/-- By induction on the text, with the offset of what is left of it. -/
theorem firstIncomplete?_eq_some_iff {t : Text} {k offset : Nat} :
    firstIncomplete? k t = some offset ↔
      ∃ i, offset = k + i ∧ IsBare t i ∧ ∀ j < i, ¬ IsBare t j := by
  induction t generalizing k with
  | nil => simp [firstIncomplete?, IsBare]
  | cons c t ih =>
    rw [firstIncomplete?]
    split
    · rename_i h
      have hzero := isBare_zero_iff.2 h
      constructor
      · rintro ⟨⟩
        exact ⟨0, rfl, hzero, fun j hj => absurd hj (Nat.not_lt_zero j)⟩
      · rintro ⟨_ | i, rfl, -, hfirst⟩
        · rfl
        · exact absurd hzero (hfirst 0 (Nat.succ_pos i))
    · rename_i h
      have hzero : ¬ IsBare (c :: t) 0 := fun hbare => h (isBare_zero_iff.1 hbare)
      rw [ih]
      constructor
      · rintro ⟨i, rfl, hbare, hfirst⟩
        refine ⟨i + 1, by omega, isBare_succ_iff.2 hbare, ?_⟩
        rintro (_ | j) hj
        · exact hzero
        · exact fun hbare => hfirst j (by omega) (isBare_succ_iff.1 hbare)
      · rintro ⟨_ | i, rfl, hbare, hfirst⟩
        · exact absurd hbare hzero
        · exact ⟨i, by omega, isBare_succ_iff.1 hbare,
            fun j hj hbare => hfirst (j + 1) (by omega) (isBare_succ_iff.2 hbare)⟩

theorem firstIncomplete?_cons_of_ne {c : CodePoint} (h : c ≠ '%') (k : Nat) (t : Text) :
    firstIncomplete? k (c :: t) = firstIncomplete? (k + 1) t := by
  rw [firstIncomplete?, if_neg fun hc => h hc.1]

/-! ## Reading what was written -/

/-- Whatever stands before and behind it, the written piece is read as the octets, and it has no
bare percent sign. -/
structure Reads (piece : Text) (bs : List Nat) : Prop where
  decodeFrom_append : ∀ run rest,
    decodeFrom run 0 (piece ++ rest) = decodeFrom (bs.reverse ++ run) 0 rest
  complete : ∀ rest, (∀ k, firstIncomplete? k rest = none) →
    ∀ k, firstIncomplete? k (piece ++ rest) = none

namespace Reads

theorem nil : Reads [] [] := ⟨fun _ _ => rfl, fun _ h => h⟩

theorem append {p q : Text} {bs cs : List Nat} (hp : Reads p bs) (hq : Reads q cs) :
    Reads (p ++ q) (bs ++ cs) where
  decodeFrom_append run rest := by
    rw [List.append_assoc, hp.decodeFrom_append, hq.decodeFrom_append, List.reverse_append,
      List.append_assoc]
  complete rest h := by
    rw [List.append_assoc]
    exact hp.complete _ (hq.complete _ h)

theorem flatMap {α : Type} {f : α → Text} {g : α → List Nat} {xs : List α}
    (h : ∀ x ∈ xs, Reads (f x) (g x)) : Reads (xs.flatMap f) (xs.flatMap g) := by
  induction xs with
  | nil => exact .nil
  | cons x xs ih =>
    rw [List.forall_mem_cons] at h
    exact h.1.append (ih h.2)

/-- An ASCII character that is neither a percent nor a plus sign. -/
theorem char {c : CodePoint} (hascii : c.toNat < 0x80) (hpercent : c ≠ '%') (hplus : c ≠ '+') :
    Reads [c] [c.toNat] where
  decodeFrom_append run rest := by
    rw [List.singleton_append, decodeFrom, if_neg hpercent, if_neg hplus, if_pos hascii]
    rfl
  complete rest h k := by
    rw [List.singleton_append, firstIncomplete?_cons_of_ne hpercent]
    exact h (k + 1)

theorem plus : Reads ['+'] [32] where
  decodeFrom_append _ _ := rfl
  complete _ h k := h (k + 1)

end Reads

theorem hexValue?_hexDigit {n : Nat} (h : n < 16) : Text.hexValue? (hexDigit n) = some n := by
  have hall : ∀ k : Fin 16, Text.hexValue? (hexDigit k) = some k.val := by decide
  exact hall ⟨n, h⟩

theorem hexDigit_ne_percent {n : Nat} (h : n < 16) : hexDigit n ≠ '%' := by
  have hall : ∀ k : Fin 16, hexDigit k ≠ '%' := by decide
  exact hall ⟨n, h⟩

theorem escaped?_hexDigit {b : Nat} (h : b < 256) (rest : Text) :
    escaped? (hexDigit (b / 16) :: hexDigit (b % 16) :: rest) = some b := by
  have hb : 16 * (b / 16) + b % 16 = b := by omega
  simp only [escaped?, hexValue?_hexDigit (show b / 16 < 16 by omega),
    hexValue?_hexDigit (show b % 16 < 16 by omega), hb]

theorem reads_escape {b : Nat} (h : b < 256) : Reads (escape b) [b] where
  decodeFrom_append run rest := by simp [escape, decodeFrom, escaped?_hexDigit h rest]
  complete rest hrest k := by
    have hcomplete : ¬ (CodePoint.char '%' = '%' ∧
        (escaped? (hexDigit (b / 16) :: hexDigit (b % 16) :: rest)).isNone) := by
      rw [escaped?_hexDigit h rest]
      exact fun hnone => Bool.false_ne_true hnone.2
    show firstIncomplete? k (.char '%' :: hexDigit (b / 16) :: hexDigit (b % 16) :: rest) = none
    rw [firstIncomplete?, if_neg hcomplete,
      firstIncomplete?_cons_of_ne (hexDigit_ne_percent (by omega)),
      firstIncomplete?_cons_of_ne (hexDigit_ne_percent (by omega))]
    exact hrest _

theorem toNat_lt_of_isPlain {c : CodePoint} (h : isPlain c = true) : c.toNat < 0x80 := by
  simp only [isPlain, Bool.or_eq_true, decide_eq_true_eq] at h
  rcases h with ((((h | h) | rfl) | rfl) | rfl) | rfl
  · simp only [Text.isAsciiLetter, Bool.or_eq_true, Bool.and_eq_true, decide_eq_true_eq] at h
    rcases h with ⟨-, h⟩ | ⟨-, h⟩
    · exact lt_of_le_of_lt h (by decide)
    · exact lt_of_le_of_lt h (by decide)
  · exact lt_of_le_of_lt (Text.isAsciiDigit_iff.1 h).2 (by decide)
  all_goals decide

theorem reads_encodeChar (c : CodePoint) : Reads (encodeChar c) (Utf8.encodeChar c) := by
  rw [encodeChar]
  split
  · rename_i h
    have hascii := toNat_lt_of_isPlain h
    rw [Utf8.encodeChar, if_pos hascii]
    refine .char hascii ?_ ?_
    · rintro rfl
      exact absurd h (by decide)
    · rintro rfl
      exact absurd h (by decide)
  · split
    · rename_i h
      rw [h]
      exact .plus
    · have hoctets : Reads ((Utf8.encodeChar c).flatMap escape)
          ((Utf8.encodeChar c).flatMap fun b => [b]) :=
        .flatMap fun b hb => reads_escape (Utf8.lt_of_mem_encodeChar hb)
      rwa [List.flatMap_singleton'] at hoctets

theorem encode_of_isScalar {t : Text} (h : t.IsScalar) : encode t = .ok (t.flatMap encodeChar) := by
  rw [encode, if_pos h]

theorem reads_flatMap_encodeChar (t : Text) :
    Reads (t.flatMap encodeChar) (t.flatMap Utf8.encodeChar) :=
  .flatMap fun c _ => reads_encodeChar c

theorem firstIncomplete?_flatMap_encodeChar (t : Text) (k : Nat) :
    firstIncomplete? k (t.flatMap encodeChar) = none := by
  have h := (reads_flatMap_encodeChar t).complete [] (fun _ => rfl) k
  rwa [List.append_nil] at h

theorem decode_flatMap_encodeChar {t : Text} (h : t.IsScalar) :
    decode (t.flatMap encodeChar) = .ok t := by
  have hread := (reads_flatMap_encodeChar t).decodeFrom_append [] []
  rw [List.append_nil, List.append_nil, decodeFrom, List.reverse_reverse,
    Utf8.decode_flatMap_encodeChar h] at hread
  simp only [decode, firstIncomplete?_flatMap_encodeChar, hread]

/-! ## The characters of encoded text -/

/-- What an encoded text is written with. -/
def IsWritten (c : CodePoint) : Prop :=
  Text.isAsciiLetter c = true ∨ Text.isAsciiDigit c = true ∨ c ∈ "-_.*+%".toText

theorem isWritten_hexDigit {n : Nat} (h : n < 16) : IsWritten (hexDigit n) := by
  have hall : ∀ k : Fin 16, Text.isAsciiLetter (hexDigit k) = true ∨
      Text.isAsciiDigit (hexDigit k) = true := by decide
  exact (hall ⟨n, h⟩).imp_right .inl

theorem isWritten_of_mem_flatMap {t : Text} {c : CodePoint} (h : c ∈ t.flatMap encodeChar) :
    IsWritten c := by
  obtain ⟨d, -, hc⟩ := List.mem_flatMap.1 h
  rw [encodeChar] at hc
  split at hc
  · rename_i hplain
    cases List.mem_singleton.1 hc
    simp only [isPlain, Bool.or_eq_true, decide_eq_true_eq] at hplain
    rcases hplain with ((((h | h) | h) | h) | h) | h
    · exact .inl h
    · exact .inr (.inl h)
    all_goals exact .inr (.inr (by simp [h]))
  · split at hc
    · exact .inr (.inr (by simp [List.mem_singleton.1 hc]))
    · obtain ⟨b, hb, hc⟩ := List.mem_flatMap.1 hc
      have hlt := Utf8.lt_of_mem_encodeChar hb
      simp only [escape, List.mem_cons, List.not_mem_nil, or_false] at hc
      rcases hc with rfl | rfl | rfl
      · exact .inr (.inr (by decide))
      · exact isWritten_hexDigit (by omega)
      · exact isWritten_hexDigit (by omega)

theorem decode_eq_error_iff {t : Text} {e : ExpansionError} :
    decode t = .error e ↔
      ∃ i, e = .incompleteEscape i t ∧ IsBare t i ∧ ∀ j < i, ¬ IsBare t j := by
  have hfirst : decode t = .error e ↔
      ∃ i, firstIncomplete? 0 t = some i ∧ e = .incompleteEscape i t := by
    rw [decode]
    cases firstIncomplete? 0 t with
    | some offset => simp [eq_comm]
    | none => simp
  simp only [hfirst, firstIncomplete?_eq_some_iff, Nat.zero_add]
  constructor
  · rintro ⟨i, ⟨_, rfl, hbare⟩, he⟩
    exact ⟨i, he, hbare⟩
  · rintro ⟨i, he, hbare⟩
    exact ⟨i, ⟨i, rfl, hbare⟩, he⟩

theorem exists_decode_eq_error_iff {t : Text} :
    (∃ e, decode t = .error e) ↔ ∃ i, IsBare t i := by
  have hnone := firstIncomplete?_eq_none_iff (t := t) (k := 0)
  rw [decode]
  cases hfirst : firstIncomplete? 0 t with
  | some offset =>
    obtain ⟨i, -, hbare, -⟩ := firstIncomplete?_eq_some_iff.1 hfirst
    exact iff_of_true ⟨_, rfl⟩ ⟨i, hbare⟩
  | none => simpa using hnone.1 hfirst

/-! ## The round trip -/

/-- Percent-encoding of texts without surrogates can be undone: it writes letters, digits, six marks
and complete escapes only, which are read back as the text, also by the operators of a template; it
encodes a text piece by piece; and reading fails exactly where a percent sign is bare, with the
offset of the first one. -/
theorem percent_round_trip {s t : Text} (hs : s.IsScalar) (ht : t.IsScalar) (u : Text) :
    (∃ r q, encode s = .ok r ∧ encode t = .ok q ∧ encode (s ++ t) = .ok (r ++ q) ∧
      (∀ c ∈ r, IsWritten c) ∧
      (∀ i, r[i]? = some (.char '%') → HasDigits r i) ∧
      decode r = .ok s) ∧
    (∀ settings clock,
      expand settings clock "\x7burlencode,urldecode\x7d".toText [.text s] = .ok s) ∧
    ((∃ e, decode u = .error e) ↔ ∃ i, IsBare u i) ∧
    ∀ e, decode u = .error e ↔
      ∃ i, e = .incompleteEscape i u ∧ IsBare u i ∧ ∀ j < i, ¬ IsBare u j := by
  refine ⟨⟨s.flatMap encodeChar, t.flatMap encodeChar, encode_of_isScalar hs, encode_of_isScalar ht,
    ?_, fun c => isWritten_of_mem_flatMap, fun i hi => ?_, decode_flatMap_encodeChar hs⟩, ?_,
    exists_decode_eq_error_iff, fun e => decode_eq_error_iff⟩
  · rw [← List.flatMap_append]
    exact encode_of_isScalar (List.forall_mem_append.2 ⟨hs, ht⟩)
  · by_contra hdigits
    exact firstIncomplete?_eq_none_iff.1 (firstIncomplete?_flatMap_encodeChar s 0) i ⟨hi, hdigits⟩
  · have hscan : scan "\x7burlencode,urldecode\x7d".toText =
        ⟨[.replacement .plain ⟨"urlencode,urldecode".toText, .next, [.urlEncode, .urlDecode]⟩],
          none⟩ := by decide +kernel
    have happly : ∀ ctx, Operator.applyAll ctx [.urlEncode, .urlDecode] (.text s) =
        pure (.text s) := by
      intro ctx
      simp [Operator.applyAll, Operator.apply, Operator.applyText, Operator.encodeText,
        Value.toText, Evaluation.ofFault, encode_of_isScalar hs, decode_flatMap_encodeChar hs]
    exact fun settings clock => expand_of_applyAll hscan happly settings clock

/-- Characters of one to four octets and marks that are escaped; a percent sign that is bare behind
an escape. -/
theorem percent_round_trip_mixed :
    let s := "a b+~%é€😀".toText
    let written := "a+b%2B%7E%25%C3%A9%E2%82%AC%F0%9F%98%80".toText
    s.IsScalar ∧ encode s = .ok written ∧ HasDigits written 3 ∧ decode written = .ok s ∧
      decode "100%25%zz%".toText = .error (.incompleteEscape 6 "100%25%zz%".toText) := by
  intro s written
  have hs : s.IsScalar := by decide +kernel
  have hwritten : encode s = .ok written := by rw [encode_of_isScalar hs]; decide +kernel
  obtain ⟨⟨r, -, hencode, -, -, -, hdigits, hdecode⟩, -, -, herror⟩ :=
    percent_round_trip hs (List.forall_mem_nil _) "100%25%zz%".toText
  cases hwritten.symm.trans hencode
  refine ⟨hs, hwritten, hdigits 3 (by decide +kernel), hdecode, (herror _).2 ⟨6, rfl, ?_⟩⟩
  decide

end BraceTemplate.Codec.Percent
