import BraceTemplate.Proofs.Application
import BraceTemplate.Proofs.Utf8
import BraceTemplate.Proofs.ValueText
import Mathlib.Data.List.DropRight

/-!
# BraceTemplate.Proofs.Base64

Base64 and its reading. Octets are written in groups of four characters, of which the last one may
end in padding (`exists_encodeOctets_eq`), and read back group by group
(`decodeOctets?_encodeOctets`). The length of a text without its padding tells how much padding it
had (`pad_encodeOctets`), so the text is read back with or without.
-/

namespace BraceTemplate.Codec.Base64

theorem digitValue?_digit {n : Nat} (h : n < 64) : digitValue? (digit n) = some n := by
  have hall : ∀ k : Fin 64, digitValue? (digit k) = some k.val := by decide
  exact hall ⟨n, h⟩

theorem digit_ne_padding {n : Nat} (h : n < 64) : digit n ≠ '=' := by
  have hall : ∀ k : Fin 64, digit k ≠ '=' := by decide
  exact hall ⟨n, h⟩

/-! ## Groups -/

theorem decodeOctets?_group {x y z w : Nat} (hx : x < 64) (hy : y < 64) (hz : z < 64) (hw : w < 64)
    (r : Text) :
    decodeOctets? (digit x :: digit y :: digit z :: digit w :: r) =
      (decodeOctets? r).map fun bs =>
        (x * 4 + y / 16) :: (y % 16 * 16 + z / 4) :: (z % 4 * 64 + w) :: bs := by
  rw [decodeOctets?]
  · simp only [digitValue?_digit hx, digitValue?_digit hy, digitValue?_digit hz,
      digitValue?_digit hw]
  · exact digit_ne_padding hx
  · intro hpadding _ _
    exact digit_ne_padding hz hpadding
  · intro hpadding _
    exact digit_ne_padding hw hpadding

/-- By recursion on the groups of three octets. -/
theorem decodeOctets?_encodeOctets {bs : List Nat} (h : ∀ b ∈ bs, b < 256) :
    decodeOctets? (encodeOctets bs) = some bs := by
  induction bs using encodeOctets.induct with
  | case1 => rfl
  | case2 a =>
    have ha := h a (by simp)
    have hfirst : a / 4 * 4 + a % 4 * 16 / 16 = a := by omega
    rw [encodeOctets, decodeOctets?]
    · simp only [digitValue?_digit (show a / 4 < 64 by omega),
        digitValue?_digit (show a % 4 * 16 < 64 by omega), hfirst]
    · exact digit_ne_padding (by omega)
  | case3 a b =>
    have ha := h a (by simp)
    have hb := h b (by simp)
    have hfirst : a / 4 * 4 + (a % 4 * 16 + b / 16) / 16 = a := by omega
    have hsecond : (a % 4 * 16 + b / 16) % 16 * 16 + b % 16 * 4 / 4 = b := by omega
    have hz : b % 16 * 4 < 64 := by omega
    rw [encodeOctets, decodeOctets?]
    · simp only [digitValue?_digit (show a / 4 < 64 by omega),
        digitValue?_digit (show a % 4 * 16 + b / 16 < 64 by omega), digitValue?_digit hz, hfirst,
        hsecond]
    · exact digit_ne_padding (by omega)
    · exact digit_ne_padding hz
  | case4 a b c r ih =>
    have ha := h a (by simp)
    have hb := h b (by simp)
    have hc := h c (by simp)
    have hfirst : a / 4 * 4 + (a % 4 * 16 + b / 16) / 16 = a := by omega
    have hsecond : (a % 4 * 16 + b / 16) % 16 * 16 + (b % 16 * 4 + c / 64) / 4 = b := by omega
    have hthird : (b % 16 * 4 + c / 64) % 4 * 64 + c % 64 = c := by omega
    have hr : ∀ x ∈ r, x < 256 := fun x hx => h x (by simp [hx])
    rw [encodeOctets, decodeOctets?_group (by omega) (by omega) (by omega) (by omega), ih hr,
      Option.map_some, hfirst, hsecond, hthird]

/-! ## Padding -/

/-- The text without the padding at its end. -/
def dropPadding (t : Text) : Text := t.rdropWhile (· = '=')

theorem exists_encodeOctets_eq {bs : List Nat} (h : ∀ b ∈ bs, b < 256) :
    ∃ (ns : List Nat) (count : Nat), encodeOctets bs =
      ns.map digit ++ List.replicate count (.char '=') ∧
      (∀ n ∈ ns, n < 64) ∧ (ns.length + count) % 4 = 0 ∧ count ≤ 2 := by
  induction bs using encodeOctets.induct with
  | case1 => exact ⟨[], 0, rfl, by simp, rfl, by decide⟩
  | case2 a =>
    have ha := h a (by simp)
    refine ⟨[a / 4, a % 4 * 16], 2, rfl, ?_, by simp, by decide⟩
    simp only [List.forall_mem_cons, List.not_mem_nil, false_imp_iff, implies_true, and_true]
    omega
  | case3 a b =>
    have ha := h a (by simp)
    have hb := h b (by simp)
    refine ⟨[a / 4, a % 4 * 16 + b / 16, b % 16 * 4], 1, rfl, ?_, by simp, by decide⟩
    simp only [List.forall_mem_cons, List.not_mem_nil, false_imp_iff, implies_true, and_true]
    omega
  | case4 a b c r ih =>
    simp only [List.forall_mem_cons] at h
    obtain ⟨ns, count, hr, hns, hlength, hcount⟩ := ih h.2.2.2
    refine ⟨a / 4 :: (a % 4 * 16 + b / 16) :: (b % 16 * 4 + c / 64) :: c % 64 :: ns, count, ?_, ?_,
      ?_, hcount⟩
    · rw [encodeOctets, hr]
      rfl
    · simp only [List.forall_mem_cons]
      exact ⟨by omega, by omega, by omega, by omega, hns⟩
    · simp only [List.length_cons]
      omega

theorem padding_not_mem_map_digit {ns : List Nat} (h : ∀ n ∈ ns, n < 64) :
    .char '=' ∉ ns.map digit := by
  intro hmem
  obtain ⟨n, hn, hdigit⟩ := List.mem_map.1 hmem
  exact digit_ne_padding (h n hn) hdigit

theorem pad_of_dvd {t : Text} (h : t.length % 4 = 0) : pad t = t := by
  rw [pad, if_neg (by omega)]

theorem pad_of_not_mem {t : Text} {count : Nat} (ht : .char '=' ∉ t)
    (hlength : (t.length + count) % 4 = 0) (hcount : count ≤ 2) :
    pad t = t ++ List.replicate count (.char '=') := by
  by_cases hzero : count = 0
  · rw [pad_of_dvd (by omega), hzero, List.replicate_zero, List.append_nil]
  · have hlast : t.getLast? ≠ some (.char '=') := fun h => ht (List.mem_of_getLast? h)
    have hmissing : 4 - t.length % 4 = count := by omega
    rw [pad, if_pos ⟨by omega, hlast⟩, hmissing]

theorem dropPadding_append {t : Text} (ht : .char '=' ∉ t) (count : Nat) :
    dropPadding (t ++ List.replicate count (.char '=')) = t := by
  induction count with
  | zero =>
    rw [List.replicate_zero, List.append_nil, dropPadding, List.rdropWhile_eq_self_iff]
    intro hne hlast
    exact ht (of_decide_eq_true hlast ▸ List.getLast_mem hne)
  | succ count ih =>
    rw [List.replicate_succ', ← List.append_assoc, dropPadding,
      List.rdropWhile_concat_pos _ _ _ (by decide)]
    exact ih

/-- Encoded octets are whole groups, and the same groups are found without their padding. -/
theorem pad_encodeOctets {bs : List Nat} (h : ∀ b ∈ bs, b < 256) :
    pad (encodeOctets bs) = encodeOctets bs ∧
      pad (dropPadding (encodeOctets bs)) = encodeOctets bs := by
  obtain ⟨ns, count, hbs, hns, hlength, hcount⟩ := exists_encodeOctets_eq h
  have hdigits := padding_not_mem_map_digit hns
  rw [hbs]
  constructor
  · exact pad_of_dvd (by rwa [List.length_append, List.length_map, List.length_replicate])
  · rw [dropPadding_append hdigits, pad_of_not_mem hdigits (by rwa [List.length_map]) hcount]

theorem head?_encodeOctets_ne {bs : List Nat} (h : ∀ b ∈ bs, b < 256) :
    (encodeOctets bs).head? ≠ some (.char '=') := by
  obtain ⟨_ | ⟨n, ns⟩, count, hbs, hns, hlength, hcount⟩ := exists_encodeOctets_eq h
  · rw [List.length_nil] at hlength
    have hzero : count = 0 := by omega
    simp [hbs, hzero]
  · rw [List.forall_mem_cons] at hns
    simpa [hbs] using digit_ne_padding hns.1

theorem decode?_of_pad {t s : Text} (hs : s.IsScalar)
    (h : pad t = encodeOctets (s.flatMap Utf8.encodeChar)) : decode? t = some s := by
  have hbytes : ∀ b ∈ s.flatMap Utf8.encodeChar, b < 256 := fun b => Utf8.lt_of_mem_flatMap
  have hhead := head?_encodeOctets_ne hbytes
  rw [decode?, h]
  split
  · rename_i rest hrest
    exact absurd (congrArg List.head? hrest) hhead
  · rw [decodeOctets?_encodeOctets hbytes, Option.map_some, Utf8.decode_flatMap_encodeChar hs]

theorem exists_encode_eq {s : Text} (hs : s.IsScalar) :
    ∃ r, encode s = .ok r ∧ decode? r = some s ∧ decode? (dropPadding r) = some s := by
  have hbytes : ∀ b ∈ s.flatMap Utf8.encodeChar, b < 256 := fun _ => Utf8.lt_of_mem_flatMap
  have hpad := pad_encodeOctets hbytes
  refine ⟨_, ?_, decode?_of_pad hs hpad.1, decode?_of_pad hs hpad.2⟩
  rw [encode, Utf8.encode_eq_ok_iff.2 ⟨hs, rfl⟩]
  rfl

/-! ## The operator -/

/-- The text that the decoding operator gives for a text. -/
def IsDecoded (t r : Text) : Prop := decode? t = some r ∨ decode? t = none ∧ r = t

theorem run_base64Decode [Packages] (ctx : Context) {v : Value} {t : Text} (h : v.toText = .ok t)
    (n : Nat) :
    ∃ r, (Operator.base64Decode.apply ctx v).run n = .ok (.text r) n ∧ IsDecoded t r := by
  refine ⟨(decode? t).getD t, ?_, ?_⟩
  · simp [Operator.apply, Operator.applyText, Operator.onText, Evaluation.ofFault, h]
  · unfold IsDecoded
    cases decode? t with
    | some r => exact .inl rfl
    | none => exact .inr ⟨rfl, rfl⟩

theorem run_base64Decode_of_isOverlong [Packages] (ctx : Context) {v : Value} (h : v.IsOverlong)
    (n : Nat) :
    (Operator.base64Decode.apply ctx v).run n = .error (.fault .tooManyDigits) n := by
  have htext : v.toText = .error .tooManyDigits := Value.toText_eq_error_iff.2 ⟨rfl, h⟩
  refine Evaluation.run_bind_eq_error_iff.2 (.inl ?_)
  refine Evaluation.run_bind_eq_error_iff.2 (.inl ?_)
  rw [htext]
  rfl

/-- Base64 of a text without surrogates can be undone, with its padding and without, also by the
operators of a template. The decoding operator gives a text for every value that can be written as
text, the decoded one or else the value's text. It fails on every other value, in which an integer
of too many digits stands. -/
theorem base64_round_trip [Packages] {s : Text} (hs : s.IsScalar) (ctx : Context) (v : Value)
    (n : Nat) :
    (∃ r, encode s = .ok r ∧ decode? r = some s ∧ decode? (dropPadding r) = some s) ∧
    (∀ settings clock,
      expand settings clock "\x7bb64encode,b64decode\x7d".toText [.text s] = .ok s) ∧
    (¬ v.IsOverlong → ∃ t r, v.toText = .ok t ∧
      (Operator.base64Decode.apply ctx v).run n = .ok (.text r) n ∧ IsDecoded t r) ∧
    (v.IsOverlong →
      (Operator.base64Decode.apply ctx v).run n = .error (.fault .tooManyDigits) n) := by
  obtain ⟨r, hencode, hdecode, hbare⟩ := exists_encode_eq hs
  refine ⟨⟨r, hencode, hdecode, hbare⟩, ?_, fun hv => ?_,
    fun hv => run_base64Decode_of_isOverlong ctx hv n⟩
  · have hscan : scan "\x7bb64encode,b64decode\x7d".toText =
        ⟨[.replacement .plain
          ⟨"b64encode,b64decode".toText, .next, [.base64Encode, .base64Decode]⟩], none⟩ := by
      decide +kernel
    have happly : ∀ ctx, Operator.applyAll ctx [.base64Encode, .base64Decode] (.text s) =
        pure (.text s) := by
      intro ctx
      simp [Operator.applyAll, Operator.apply, Operator.applyText, Operator.onText,
        Operator.encodeText, Value.toText, Evaluation.ofFault, hencode, hdecode]
    exact fun settings clock => expand_of_applyAll hscan happly settings clock
  · cases htext : v.toText with
    | ok t =>
      obtain ⟨r, hrun, hr⟩ := run_base64Decode ctx htext n
      exact ⟨t, r, rfl, hrun, hr⟩
    | error f => exact absurd (Value.toText_eq_error_iff.1 htext).2 hv

/-- A text of four octets, of which the padding is left out; a text that is no base64, and a list
that holds an integer of too many digits. -/
theorem base64_round_trip_fallback :
    let decoded := fun v => (Operator.base64Decode.apply ⟨[], [], none⟩ v).run 0
    let dogs := "cats and dogs".toText
    let large := Value.list [.text ['a'], .int (10 ^ Number.maxDigits : Nat)]
    encode "hell".toText = .ok "aGVsbA==".toText ∧
      dropPadding "aGVsbA==".toText = "aGVsbA".toText ∧
      decode? "aGVsbA".toText = some "hell".toText ∧
      ¬ (Value.text dogs).IsOverlong ∧ decoded (.text dogs) = .ok (.text dogs) 0 ∧
      large.IsOverlong ∧ decoded large = .error (.fault .tooManyDigits) 0 := by
  intro decoded dogs large
  have hhell : ("hell".toText).IsScalar := by decide
  have hencode : encode "hell".toText = .ok "aGVsbA==".toText := rfl
  have hdrop : dropPadding "aGVsbA==".toText = "aGVsbA".toText := by decide +kernel
  have hdogs : ¬ (Value.text dogs).IsOverlong := by
    rintro ⟨i, hi, -⟩
    cases hi
  have hlarge : large.IsOverlong := ⟨_, .list (List.mem_cons_of_mem _ List.mem_cons_self) .int,
    Number.isOverlong_natCast_iff.2 (Nat.le_refl _)⟩
  obtain ⟨⟨r, hr, -, hbare⟩, -, htext, -⟩ :=
    base64_round_trip hhell ⟨[], [], none⟩ (.text dogs) 0
  obtain ⟨-, -, -, hfault⟩ := base64_round_trip hhell ⟨[], [], none⟩ large 0
  cases hencode.symm.trans hr
  rw [hdrop] at hbare
  obtain ⟨t, r, ht, hrun, hr⟩ := htext hdogs
  cases ht
  refine ⟨hencode, hdrop, hbare, hdogs, ?_, hlarge, hfault hlarge⟩
  have hnone : decode? dogs = none := by decide +kernel
  rcases hr with hr | ⟨-, rfl⟩
  · rw [hnone] at hr
    cases hr
  · exact hrun

/-- The least integer of too many digits has no text, which the decoding operator could leave as it
is. -/
theorem base64Decode_overlong :
    ¬ ∀ (ctx : Context) (v : Value) (n : Nat),
      ∃ t m, (Operator.base64Decode.apply ctx v).run n = .ok (.text t) m := by
  intro h
  obtain ⟨t, m, hrun⟩ := h ⟨[], [], none⟩ (.int (10 ^ Number.maxDigits : Nat)) 0
  have hlong : Number.IsOverlong (10 ^ Number.maxDigits : Nat) :=
    Number.isOverlong_natCast_iff.2 (Nat.le_refl _)
  rw [run_base64Decode_of_isOverlong _ (Value.isOverlong_int_iff.2 hlong)] at hrun
  cases hrun

end BraceTemplate.Codec.Base64
