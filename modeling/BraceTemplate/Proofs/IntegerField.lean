import BraceTemplate.Proofs.FormatEnds
import BraceTemplate.Proofs.Keyword
import BraceTemplate.Proofs.Operand

/-!
# BraceTemplate.Proofs.IntegerField

Integers in their fields. Whatever the flag and the width, an integer is written as a sign and the
mark of its base, then its digits, and the field around them is filled in one of three ways
(`formatInteger_eq_ok_iff`). Fill, commas and zeros in front carry nothing: the integer is read back
from the text (`format_integer`).
-/

namespace BraceTemplate

/-! ## Zeros in front and commas -/

namespace Number

theorem numeral?_zero_cons {base : Nat} (hbase : 0 < base) {t : Text} (ht : t ≠ []) :
    numeral? base ('0' :: t) = numeral? base t := by
  have hne : t.isEmpty = false := by simpa using ht
  simp [numeral?, readDigit?_zero hbase, hne]

theorem numeral?_zeros {base : Nat} (hbase : 0 < base) {t : Text} (ht : t ≠ []) (k : Nat) :
    numeral? base (List.replicate k (.char '0') ++ t) = numeral? base t := by
  induction k with
  | zero => rfl
  | succ k ih =>
    rw [List.replicate_succ, List.cons_append, numeral?_zero_cons hbase (by simp [ht]), ih]

theorem ne_nil_of_numeral? {base n : Nat} {t : Text} (h : numeral? base t = some n) : t ≠ [] := by
  rintro rfl
  cases h

theorem filter_groupThousands_go {p : CodePoint → Bool} (hp : p ',' = false) (n : Nat) (t : Text) :
    (groupThousands.go n t).filter p = t.filter p := by
  induction t generalizing n with
  | nil => rfl
  | cons c t ih =>
    rw [groupThousands.go]
    split
    · rw [List.filter_cons_of_neg (by simp [hp]), List.filter_cons, List.filter_cons, ih]
    · rw [List.filter_cons, List.filter_cons, ih]

/-- Grouping puts nothing between the digits but commas. -/
theorem filter_groupThousands {p : CodePoint → Bool} (hp : p ',' = false) (digits : Text) :
    (groupThousands digits).filter p = digits.filter p := by
  rw [groupThousands, List.filter_reverse, filter_groupThousands_go hp, List.filter_reverse,
    List.reverse_reverse]

theorem digitsValue_dropWhile (digits : Text) :
    digitsValue (digits.dropWhile (· = '0')) = digitsValue digits := by
  induction digits with
  | nil => rfl
  | cons c digits ih =>
    by_cases hc : c = '0'
    · subst hc
      rw [List.dropWhile_cons_of_pos (by decide), ih]
      rfl
    · rw [List.dropWhile_cons_of_neg (by simpa using hc)]

end Number

namespace Printf

/-! ## Specifiers without a precision -/

theorem Conversion.not_of_ofLetter? {c : CodePoint} {k : Conversion} (h : ofLetter? c = some k) :
    Flag.ofChar? c = none ∧ Text.isDecimal c = false ∧ c ≠ '.' := by
  have hletters : ∀ d ∈ "bBhHsScCdoxXeEfgGaA".toText,
      Flag.ofChar? d = none ∧ Text.isDecimal d = false ∧ d ≠ '.' :=
    Directive.forall_mem_of_all (by decide)
  have hmem : c ∈ "bBhHsScCdoxXeEfgGaA".toText := by
    unfold ofLetter? at h
    split at h
    all_goals first
      | decide
      | cases h
  exact hletters c hmem

namespace Specifier

/-- A specifier as it is spelled: a percent sign, the flag, the width and the letter. -/
def spelled (flag : Option Flag) (width : Text) (letter : CodePoint) : Text :=
  .char '%' :: ((flag.map Flag.toChar).toList ++ (width ++ [letter]))

theorem ofChar?_of_isDecimal {c : CodePoint} (hc : Text.isDecimal c = true) (hzero : c ≠ '0') :
    Flag.ofChar? c = none := by
  unfold Flag.ofChar?
  split
  all_goals first
    | rfl
    | exact absurd rfl hzero
    | exact absurd hc (by decide)

theorem splitFlag_spelled {flag : Option Flag} {width rest : Text} {letter : CodePoint}
    (hletter : Flag.ofChar? letter = none) (hwidth : ∀ c ∈ width, Text.isDecimal c = true)
    (hflag : flag = none → width.head? ≠ some (.char '0')) :
    splitFlag ((flag.map Flag.toChar).toList ++ (width ++ letter :: rest)) =
      (flag, width ++ letter :: rest) := by
  cases flag with
  | none =>
    cases width with
    | nil => simp [splitFlag, hletter]
    | cons c width =>
      have hc : Flag.ofChar? c = none :=
        ofChar?_of_isDecimal (hwidth c List.mem_cons_self) (by simpa using hflag rfl)
      simp [splitFlag, hc]
  | some f =>
    have hf : Flag.ofChar? f.toChar = some f := by cases f <;> rfl
    simp [splitFlag, hf]

theorem parse?_spelled {flag : Option Flag} {width : Text} {letter : CodePoint} {k : Conversion}
    (hletter : Conversion.ofLetter? letter = some k)
    (hwidth : ∀ c ∈ width, Text.isDecimal c = true)
    (hflag : flag = none → width.head? ≠ some (.char '0')) :
    parse? (spelled flag width letter) = some ⟨flag, width, none, letter, k⟩ := by
  obtain ⟨hnoflag, hdecimal, hpoint⟩ := Conversion.not_of_ofLetter? hletter
  have hstop : ∀ c ∈ [letter].head?, Text.isDecimal c = false := by
    rintro c ⟨⟩
    exact hdecimal
  have hprecision : splitPrecision [letter] = (none, [letter]) := by
    unfold splitPrecision
    split
    · rename_i h
      cases h
      exact absurd rfl hpoint
    · rfl
  simp only [parse?, spelled, splitFlag_spelled hnoflag hwidth hflag,
    Text.takeWhile_append_of_stop hwidth hstop,
    Text.dropWhile_append_of_stop hwidth hstop, hprecision, lastLetter?, hletter,
    Option.map_some]

end Specifier

/-! ## Fields -/

/-- How a field is filled. -/
inductive Filling where
  | spacesRight
  | zeros
  | spacesLeft
  deriving DecidableEq

namespace Filling

/-- A sign or a mark and what follows it, in a field. Zeros stand between the two. -/
def fill (f : Filling) (width : Nat) (lead rest : Text) : Text :=
  match f with
  | spacesRight => Text.padRight width (lead ++ rest)
  | zeros => lead ++ Number.zeroPad (width - lead.length) rest
  | spacesLeft => Text.padLeft width (lead ++ rest)

theorem fill_zero (f : Filling) (lead rest : Text) : f.fill 0 lead rest = lead ++ rest := by
  cases f with
  | spacesRight => simp [fill, Text.padRight]
  | zeros => simp [fill, Number.zeroPad]
  | spacesLeft => simp [fill, Text.padLeft]

theorem length_fill (f : Filling) (width : Nat) (lead rest : Text) :
    (f.fill width lead rest).length = max width (lead ++ rest).length := by
  cases f with
  | spacesRight =>
    simp only [fill, Text.padRight, List.length_append, List.length_replicate]
    omega
  | zeros =>
    simp only [fill, Number.zeroPad, List.length_append, List.length_replicate]
    omega
  | spacesLeft =>
    simp only [fill, Text.padLeft, List.length_append, List.length_replicate]
    omega

theorem exists_filter_fill {p : CodePoint → Bool} (hspace : p ' ' = false) (hzero : p '0' = true)
    (f : Filling) (width : Nat) (lead rest : Text) :
    ∃ k, (f.fill width lead rest).filter p =
      lead.filter p ++ (List.replicate k (.char '0') ++ rest.filter p) := by
  cases f with
  | spacesRight => exact ⟨0, by simp [fill, Text.padRight, hspace]⟩
  | zeros => exact ⟨width - lead.length - rest.length, by simp [fill, Number.zeroPad, hzero]⟩
  | spacesLeft => exact ⟨0, by simp [fill, Text.padLeft, hspace]⟩

end Filling

theorem pad_eq_ok_iff {left : Bool} {width t r : Text} :
    pad left width t = .ok r ↔ IsPaddable width ∧
      r = if left then Text.padRight (Number.digitsValue width) t
        else Text.padLeft (Number.digitsValue width) t := by
  by_cases h : IsPaddable width
  · simp [pad_eq_ok h, h, eq_comm]
  · obtain ⟨f, hf⟩ := pad_eq_fault h left t
    simp [hf, h]

theorem field_eq_ok_iff {flag : Option Flag} {width t : Text} (field : Nat → Text) :
    (match readAsciiNumber maxWidth (layoutOf flag width).2 with
      | .error e => .error e
      | .ok n => .ok (field n)) = (.ok t : Except Failure Text) ↔
      IsReadable maxWidth width ∧ t = field (Number.digitsValue width) := by
  have hzeros : (layoutOf flag width).2 = width.dropWhile (· = .char '0') := rfl
  rw [hzeros, ← isReadable_dropWhile_iff, ← Number.digitsValue_dropWhile]
  by_cases h : IsReadable maxWidth (width.dropWhile (· = '0'))
  · simp [readAsciiNumber_eq_ok h, h, eq_comm]
  · simp [readAsciiNumber_eq_fault h, h]

namespace Specifier

variable (s : Specifier)

/-- The sign of a number, which a parenthesis may stand for. -/
def sign (negative : Bool) : Text :=
  if negative then (if s.flag = some .parenthesis then ['('] else ['-'])
  else if s.flag = some .plus then ['+']
  else if s.flag = some .space then [' ']
  else []

/-- The mark of the base before the digits. -/
def mark : Text :=
  if s.flag = some .alternate then
    match s.conversion with
    | .octal => ['0']
    | .hexadecimal => ['0', if s.isUpper then 'X' else 'x']
    | _ => []
  else []

/-- The digits, with commas if the flag asks for them, and the parenthesis that closes them. -/
def rest (negative : Bool) (digits : Text) : Text :=
  (if s.flag = some .comma then Number.groupThousands digits else digits) ++
    (if negative ∧ s.flag = some .parenthesis then [.char ')'] else [])

/-- Spaces on the right with the left flag; zeros with the zero flag, which may also stand behind
another flag, unless the text is finished before it is padded. -/
def filling : Filling :=
  if s.flag = some .left then .spacesRight
  else if s.flag = some .parenthesis ∨ s.flag = some .comma ∨
      (s.conversion = .octal ∧ s.flag = some .alternate) then .spacesLeft
  else if s.flag = some .zero ∨ s.width.head? = some (.char '0') then .zeros
  else .spacesLeft

end Specifier

/-! ## Integers -/

variable {s : Specifier} {i : Int} {digits : Text}

theorem eq_natText_of_integerDigits (hdecimal : s.conversion = .decimal)
    (h : integerDigits s i = .ok digits) : digits = Number.natText i.natAbs := by
  simp only [integerDigits, hdecimal, Number.decimalText_natCast] at h
  split at h
  · rename_i hn
    split at hn
    · cases hn
      cases h
      rfl
    · cases hn
  · cases h

theorem numeral?_of_integerDigits (hkind : s.conversion.kind = .integral)
    (h : integerDigits s i = .ok digits) :
    Number.numeral? s.conversion.base digits = some i.natAbs := by
  rcases Conversion.kind_eq_integral_iff.1 hkind with hdecimal | hword
  · have hread : Number.numeral? 10 ((Text.digits 10 i.natAbs).map id) = some i.natAbs :=
      Number.numeral?_digits Number.keepsDigits_id (by decide) (by decide) _
    rw [List.map_id] at hread
    rw [hdecimal, eq_natText_of_integerDigits hdecimal h]
    exact hread
  · obtain ⟨g, hg, hdigits⟩ := exists_integerDigits hword i
    rw [h] at hdigits
    cases hdigits
    exact Number.numeral?_digits hg s.conversion.one_lt_base s.conversion.base_le _

theorem machineWord_of_nonneg (h : 0 ≤ i) : machineWord i = i := by
  rw [machineWord, if_neg (by omega)]

theorem Specifier.rest_of_flag (hparenthesis : s.flag ≠ some .parenthesis)
    (hcomma : s.flag ≠ some .comma) (negative : Bool) (digits : Text) :
    s.rest negative digits = digits := by
  simp [Specifier.rest, hparenthesis, hcomma]

theorem mark_of_not_octal (hoctal : ¬ (s.conversion = .octal ∧ s.flag = some .alternate)) :
    (if (layoutOf s.flag s.width).1.alternate ∧ s.conversion = .hexadecimal then
      (['0', if s.isUpper then 'X' else 'x'] : Text) else []) = s.mark := by
  unfold Specifier.mark
  cases hconversion : s.conversion <;> simp_all [layoutOf]

theorem layOut_eq_fill (hparenthesis : s.flag ≠ some .parenthesis) (hcomma : s.flag ≠ some .comma)
    (hoctal : ¬ (s.conversion = .octal ∧ s.flag = some .alternate)) (n : Nat) (negative : Bool)
    (mark digits : Text) :
    layOut (layoutOf s.flag s.width).1 n negative mark digits =
      s.filling.fill n (s.sign negative ++ mark) digits := by
  have hsign : (if negative then [.char '-'] else (layoutOf s.flag s.width).1.signIfPositive) =
      s.sign negative := by
    simp only [layoutOf, Specifier.sign, if_neg hparenthesis]
  unfold layOut Specifier.filling
  rw [hsign]
  by_cases hleft : s.flag = some .left
  · simp [layoutOf, hleft, Filling.fill, Text.padRight]
  · simp only [layoutOf, hleft, decide_false, Bool.false_eq_true, if_false, hparenthesis, hcomma,
      hoctal, or_self, Bool.or_eq_true, decide_eq_true_eq]
    split
    · simp only [Filling.fill, Number.zeroPad, List.append_assoc, List.length_append,
        Nat.sub_sub, Nat.add_assoc]
    · simp [Filling.fill, Text.padLeft]

theorem formatInteger_eq_ok_iff (hkind : s.conversion.kind = .integral)
    (hi : s.conversion.IsWord → 0 ≤ i) {t : Text} :
    formatInteger s i = .ok t ↔
      s.ReadsWidth ∧ ¬ (s.conversion.IsWord ∧ s.flag = some .comma) ∧
      ∃ digits, integerDigits s i = .ok digits ∧
        t = s.filling.fill (Number.digitsValue s.width) (s.sign (i < 0) ++ s.mark)
          (s.rest (i < 0) digits) := by
  have hvalue : (if s.conversion = .decimal then i else machineWord i) = i := by
    split
    · rfl
    · rename_i hdecimal
      exact machineWord_of_nonneg
        (hi ((Conversion.kind_eq_integral_iff.1 hkind).resolve_left hdecimal))
  have hpads := Specifier.padsText_iff_of_integral hkind
  unfold formatInteger
  simp only [hvalue]
  cases hdigits : integerDigits s i with
  | error e => simp
  | ok digits =>
    simp only [Except.ok.injEq, exists_eq_left']
    split
    · rename_i hflag
      have hreads := Specifier.readsWidth_iff_of_padsText (hpads.2 (.inl hflag))
      by_cases hnegative : i < 0
      all_goals
        simp [parenthesized, pad_eq_ok_iff, hreads, hflag, hnegative, Specifier.filling,
          Specifier.sign, Specifier.mark, Specifier.rest, Filling.fill]
    · rename_i hflag
      split
      · rename_i hdecimal
        have hreads :=
          Specifier.readsWidth_iff_of_padsText (hpads.2 (.inr (.inl ⟨hdecimal, hflag⟩)))
        by_cases hnegative : i < 0
        all_goals
          simp [pad_eq_ok_iff, hreads, hflag, hdecimal, hnegative, Specifier.filling,
            Specifier.sign, Specifier.mark, Specifier.rest, Filling.fill, Conversion.IsWord]
      · rename_i hdecimal
        have hword := (Conversion.kind_eq_integral_iff.1 hkind).resolve_left hdecimal
        simp [hword, hflag]
    · rename_i hparenthesis hcomma
      rw [and_iff_right (fun hword => hcomma hword.2)]
      split
      · rename_i hoctal
        have hreads := Specifier.readsWidth_iff_of_padsText (hpads.2 (.inr (.inr hoctal)))
        have hnonneg : ¬ i < 0 := Int.not_lt.2 (hi (.inl hoctal.1))
        simp [pad_eq_ok_iff, hreads, hoctal, hnonneg, Specifier.filling, Specifier.sign,
          Specifier.mark, Specifier.rest, Filling.fill]
      · rename_i hoctal
        have hfield := Specifier.not_padsText_of_integral hkind hparenthesis hcomma hoctal
        simp only [Specifier.readsWidth_iff_of_not_padsText hfield, mark_of_not_octal hoctal,
          layOut_eq_fill hparenthesis hcomma hoctal, Specifier.rest_of_flag hparenthesis hcomma]
        exact field_eq_ok_iff _

/-! ## Reading back -/

/-- Characters that count for nothing in the text of an integer. -/
def isFiller (c : CodePoint) : Bool := c = ' ' || c = ','

/-- The magnitude that a mark and digits denote. Zeros in front of the digits may be left out. -/
def magnitude? (base : Nat) (mark t : Text) : Option Nat :=
  (Text.after? mark t).bind (Number.numeral? base)

theorem magnitude?_append {base n : Nat} {digits : Text} (hbase : 0 < base)
    (h : Number.numeral? base digits = some n) (mark : Text) (k : Nat) :
    magnitude? base mark (mark ++ (List.replicate k (.char '0') ++ digits)) = some n := by
  rw [magnitude?, Text.after?_eq_some_iff.2 rfl, Option.bind_some,
    Number.numeral?_zeros hbase (Number.ne_nil_of_numeral? h), h]

/-- The signs of integers and the characters that count for nothing. -/
def signsAndFillers : Text := ['(', '-', '+', ' ', ',']

/-- The integer that a text without fillers denotes. Parentheses stand for a minus sign. -/
def signed? (base : Nat) (mark : Text) : Text → Option Int
  | '(' :: t =>
    if t.getLast? = some (.char ')') then
      (magnitude? base mark t.dropLast).map fun n : Nat => -(n : Int)
    else none
  | '-' :: t => (magnitude? base mark t).map fun n : Nat => -(n : Int)
  | '+' :: t => (magnitude? base mark t).map fun n : Nat => (n : Int)
  | t => (magnitude? base mark t).map fun n : Nat => (n : Int)

/-- The integer that a text denotes, once its spaces and commas are removed. -/
def readBack? (base : Nat) (mark t : Text) : Option Int :=
  signed? base mark (t.filter (!isFiller ·))

theorem signed?_of_head {base : Nat} {mark t : Text} (h : ∀ c ∈ t, c ∉ signsAndFillers) :
    signed? base mark t = (magnitude? base mark t).map fun n : Nat => (n : Int) := by
  unfold signed?
  split
  · exact absurd (by decide) (h '(' List.mem_cons_self)
  · exact absurd (by decide) (h '-' List.mem_cons_self)
  · exact absurd (by decide) (h '+' List.mem_cons_self)
  · rfl

theorem not_mem_of_isSome_hexValue? {c : CodePoint} (h : (Text.hexValue? c).isSome) :
    c ∉ signsAndFillers := by
  have hnone : ∀ d ∈ signsAndFillers, Text.hexValue? d = none :=
    Directive.forall_mem_of_all (by decide)
  intro hc
  rw [hnone c hc] at h
  cases h

theorem Specifier.not_mem_of_mem_mark {c : CodePoint} (hc : c ∈ s.mark) : c ∉ signsAndFillers := by
  have hmarks : ∀ d ∈ "0xX".toText, d ∉ signsAndFillers :=
    Directive.forall_mem_of_all (by decide)
  refine hmarks c ?_
  unfold mark at hc
  split at hc
  · split at hc
    · simp_all
    · rcases List.mem_cons.1 hc with rfl | hc
      · decide
      · split at hc
        all_goals simp_all
    · cases hc
  · cases hc

theorem not_mem_of_numeral? {base n k : Nat} {digits : Text}
    (h : Number.numeral? base digits = some n) {c : CodePoint}
    (hc : c ∈ s.mark ++ (List.replicate k (.char '0') ++ digits)) : c ∉ signsAndFillers := by
  rcases List.mem_append.1 hc with hc | hc
  · exact s.not_mem_of_mem_mark hc
  · rcases List.mem_append.1 hc with hc | hc
    · rw [List.eq_of_mem_replicate hc]
      decide
    · exact not_mem_of_isSome_hexValue? (Number.isSome_hexValue?_of_numeral? h hc)

theorem exists_filter_fill_sign {base n : Nat} {digits : Text}
    (h : Number.numeral? base digits = some n) (negative : Bool) (width : Nat) :
    ∃ k, (s.filling.fill width (s.sign negative ++ s.mark) (s.rest negative digits)).filter
        (!isFiller ·) =
      (s.sign negative).filter (!isFiller ·) ++
        (s.mark ++ (List.replicate k (.char '0') ++ digits)) ++
        (if negative ∧ s.flag = some .parenthesis then [.char ')'] else []) := by
  have hkeeps : ∀ c, c ∉ signsAndFillers → (!isFiller c) = true := by
    intro c hc
    simp [signsAndFillers] at hc
    simp [isFiller, hc]
  have hdigits : digits.filter (!isFiller ·) = digits :=
    List.filter_eq_self.2 fun c hc =>
      hkeeps c (not_mem_of_isSome_hexValue? (Number.isSome_hexValue?_of_numeral? h hc))
  have hmark : s.mark.filter (!isFiller ·) = s.mark :=
    List.filter_eq_self.2 fun c hc => hkeeps c (s.not_mem_of_mem_mark hc)
  obtain ⟨k, hk⟩ := Filling.exists_filter_fill (p := (!isFiller ·)) (by decide) (by decide)
    s.filling width (s.sign negative ++ s.mark) (s.rest negative digits)
  refine ⟨k, hk.trans ?_⟩
  have hrest : (s.rest negative digits).filter (!isFiller ·) = digits ++
      (if negative ∧ s.flag = some .parenthesis then [.char ')'] else []) := by
    unfold Specifier.rest
    rw [List.filter_append]
    congr 1
    · split
      · rw [Number.filter_groupThousands (by decide), hdigits]
      · exact hdigits
    · split
      · decide
      · rfl
  rw [List.filter_append, hmark, hrest]
  simp only [List.append_assoc]

/-- Whatever fills the field, the integer is read back. -/
theorem readBack?_fill {base : Nat} {digits : Text} (hbase : 0 < base)
    (h : Number.numeral? base digits = some i.natAbs) (width : Nat) :
    readBack? base s.mark
      (s.filling.fill width (s.sign (i < 0) ++ s.mark) (s.rest (i < 0) digits)) =
      some i := by
  obtain ⟨k, hk⟩ := exists_filter_fill_sign (s := s) h (i < 0) width
  have hread := magnitude?_append hbase h s.mark k
  have hbody : ∀ c ∈ s.mark ++ (List.replicate k (.char '0') ++ digits), c ∉ signsAndFillers :=
    fun c => not_mem_of_numeral? h
  generalize s.mark ++ (List.replicate k (.char '0') ++ digits) = body at hk hread hbody
  rw [readBack?, hk]
  by_cases hnegative : i < 0
  · by_cases hflag : s.flag = some .parenthesis
    · have hsign : (s.sign (i < 0)).filter (!isFiller ·) = [.char '('] := by
        simp [Specifier.sign, hnegative, hflag, isFiller]
      rw [hsign, if_pos ⟨by simpa using hnegative, hflag⟩]
      simp [signed?, hread, abs_of_neg hnegative]
    · have hsign : (s.sign (i < 0)).filter (!isFiller ·) = [.char '-'] := by
        simp [Specifier.sign, hnegative, hflag, isFiller]
      rw [hsign, if_neg (fun hp => hflag hp.2)]
      simp [signed?, hread, abs_of_neg hnegative]
  · rw [if_neg (fun hp => hnegative (by simpa using hp.1)), List.append_nil]
    by_cases hflag : s.flag = some .plus
    · have hsign : (s.sign (i < 0)).filter (!isFiller ·) = [.char '+'] := by
        simp [Specifier.sign, hnegative, hflag, isFiller]
      rw [hsign]
      simp [signed?, hread, abs_of_nonneg (not_lt.1 hnegative)]
    · have hsign : (s.sign (i < 0)).filter (!isFiller ·) = [] := by
        by_cases hspace : s.flag = some .space
        · simp [Specifier.sign, hnegative, hspace, isFiller]
        · simp [Specifier.sign, hnegative, hflag, hspace]
      rw [hsign, List.nil_append, signed?_of_head hbody, hread, Option.map_some,
        Int.natAbs_of_nonneg (not_lt.1 hnegative)]

/-! ## Formatting -/

theorem formatInteger_zero_cons (width : Text) (letter : CodePoint) (k : Conversion) (i : Int) :
    formatInteger ⟨some .zero, width, none, letter, k⟩ i =
      formatInteger ⟨none, '0' :: width, none, letter, k⟩ i := by
  have hlayout : layoutOf (some .zero) width = layoutOf none ('0' :: width) := by
    simp [layoutOf]
  have hdigits : ∀ n, integerDigits ⟨some .zero, width, none, letter, k⟩ n =
      integerDigits ⟨none, '0' :: width, none, letter, k⟩ n := fun _ => rfl
  simp only [formatInteger, hlayout, hdigits, Specifier.isUpper, Option.some.injEq, reduceCtorEq,
    and_false, if_false]
  rfl

theorem Specifier.readsWidth_of_nil (h : s.width = []) : s.ReadsWidth := by
  rw [ReadsWidth, h]
  exact ⟨fun _ => ⟨Nat.zero_le _, Nat.zero_le _⟩, fun _ => ⟨by simp, Nat.zero_le _⟩⟩

theorem format_spelled {flag : Option Flag} {width : Text} {letter : CodePoint} {k : Conversion}
    (hletter : Conversion.ofLetter? letter = some k) (hkind : k.kind = .integral)
    (hwidth : ∀ c ∈ width, Text.isDecimal c = true) (i : Int) :
    format (Specifier.spelled flag width letter) (.int i) =
      formatInteger ⟨flag, width, none, letter, k⟩ i := by
  have hformat : ∀ {s : Specifier} {spec : Text}, Specifier.parse? spec = some s →
      s.conversion.kind = .integral → s.precision = none →
      format spec (.int i) = formatInteger s i := by
    intro s spec hparse hkind hprecision
    rw [format, hparse]
    rcases Conversion.kind_eq_integral_iff.1 hkind with h | h | h
    all_goals simp [formatWith, h, formatWith.integer, hprecision]
  by_cases hzero : flag = none ∧ width.head? = some (.char '0')
  · obtain ⟨rfl, hhead⟩ := hzero
    obtain ⟨w, rfl⟩ : ∃ w, width = .char '0' :: w := ⟨_, List.eq_cons_of_mem_head? hhead⟩
    rw [← formatInteger_zero_cons]
    have hparse : Specifier.parse? (Specifier.spelled (some .zero) w letter) =
        some ⟨some .zero, w, none, letter, k⟩ :=
      Specifier.parse?_spelled hletter (fun c hc => hwidth c (List.mem_cons_of_mem _ hc)) (by simp)
    exact hformat hparse hkind rfl
  · exact hformat (Specifier.parse?_spelled hletter hwidth
      fun hflag hhead => hzero ⟨hflag, hhead⟩) hkind rfl

/-- An integer in a field of any width, in ASCII digits. In the octal and hexadecimal conversions
it is not below zero. A text is given unless the integer is too long for decimal text, the width is
too large, or there are commas in octal or hexadecimal digits. The integer is read back from the
text, which is as long as the width asks for and not longer than it must be. It is that without a
width, with spaces on the right, with spaces on the left, or with zeros behind the sign and the mark
of the base. -/
theorem format_integer {flag : Option Flag} {width : Text} {letter : CodePoint} {k : Conversion}
    {i : Int}
    (hletter : Conversion.ofLetter? letter = some k) (hkind : k.kind = .integral)
    (hwidth : ∀ c ∈ width, Text.isAsciiDigit c = true) (hi : k.IsWord → 0 ≤ i) :
    let s : Specifier := ⟨flag, width, none, letter, k⟩
    ((∃ t, format (Specifier.spelled flag width letter) (.int i) = .ok t) ↔
      ¬ (k = .decimal ∧ Number.IsOverlong i) ∧ s.ReadsWidth ∧
        ¬ (k.IsWord ∧ flag = some .comma)) ∧
    ∀ t, format (Specifier.spelled flag width letter) (.int i) = .ok t →
      readBack? k.base s.mark t = some i ∧
      ∃ rest, let lead := s.sign (i < 0) ++ s.mark
        format (Specifier.spelled flag [] letter) (.int i) = .ok (lead ++ rest) ∧
        t.length = max (Number.digitsValue width) (lead ++ rest).length ∧
        t = s.filling.fill (Number.digitsValue width) lead rest := by
  intro s
  have hdecimal : ∀ c ∈ width, Text.isDecimal c = true := by
    intro c hc
    rw [Text.isDecimal, Text.digitValue?_of_isAsciiDigit (hwidth c hc)]
    rfl
  rw [format_spelled hletter hkind hdecimal]
  constructor
  · obtain ⟨hfaults, f, hfault⟩ | ⟨hfaults, t, ht⟩ := faultsIff_formatInteger (s := s) hkind i
    · rw [hfault]
      refine iff_of_false (by simp) fun ⟨hshort, hreads, hgroup⟩ => ?_
      rcases hfaults with h | h | h
      · exact hshort h
      · exact h hreads
      · exact hgroup h
    · rw [ht]
      simp only [not_or, not_not] at hfaults
      exact iff_of_true ⟨t, rfl⟩ hfaults
  · intro t ht
    obtain ⟨-, hgroup, digits, hdigits, rfl⟩ := (formatInteger_eq_ok_iff (s := s) hkind hi).1 ht
    have hnumeral := numeral?_of_integerDigits (s := s) hkind hdigits
    refine ⟨readBack?_fill (Nat.zero_lt_of_lt k.one_lt_base) hnumeral _, s.rest (i < 0) digits, ?_,
      Filling.length_fill .., rfl⟩
    rw [format_spelled hletter hkind (by simp), formatInteger_eq_ok_iff hkind hi]
    exact ⟨Specifier.readsWidth_of_nil rfl, hgroup, digits, hdigits, (Filling.fill_zero ..).symm⟩

/-- Commas, a minus sign and spaces. -/
theorem format_integer_grouped :
    let spec := Specifier.spelled (some .comma) ['1', '2'] 'd'
    spec = "%,12d".toText ∧ Conversion.ofLetter? 'd' = some .decimal ∧
      Conversion.decimal.kind = .integral ∧ (∀ c ∈ "12".toText, Text.isAsciiDigit c = true) ∧
      (Conversion.decimal.IsWord → (0 : Int) ≤ -1234567) ∧
      format spec (.int (-1234567)) = .ok "  -1,234,567".toText ∧
      readBack? 10 [] "  -1,234,567".toText = some (-1234567) ∧
      ∃ rest, format "%,d".toText (.int (-1234567)) = .ok ('-' :: rest) ∧
        "  -1,234,567".toText = Text.padLeft 12 ('-' :: rest) := by
  intro spec
  have hletter : Conversion.ofLetter? 'd' = some .decimal := rfl
  have hdigits : ∀ c ∈ "12".toText, Text.isAsciiDigit c = true :=
    Directive.forall_mem_of_all (by decide)
  have hword : Conversion.decimal.IsWord → (0 : Int) ≤ -1234567 := by
    rintro (h | h)
    · cases h
    · cases h
  have hformat : format spec (.int (-1234567)) = .ok "  -1,234,567".toText := by decide +kernel
  obtain ⟨hread, rest, hbare, -, hfill⟩ :=
    (format_integer hletter rfl hdigits hword).2 _ hformat
  exact ⟨by decide, hletter, rfl, hdigits, hword, hformat, hread, rest, hbare, hfill⟩

/-- Zeros are also asked for behind another flag, by a width that begins with one. -/
theorem format_zero_width :
    format "%+05d".toText (.int 42) = .ok "+0042".toText ∧
      ¬ ∀ (flag : Option Flag) (width : Text) (i : Int) (t bare : Text),
        flag ≠ some .left → flag ≠ some .zero → flag ≠ some .alternate →
        (∀ c ∈ width, Text.isAsciiDigit c = true) →
        format (Specifier.spelled flag width 'd') (.int i) = .ok t →
        format (Specifier.spelled flag [] 'd') (.int i) = .ok bare →
        t = Text.padLeft (Number.digitsValue width) bare := by
  have hformat : format "%+05d".toText (.int 42) = .ok "+0042".toText := by decide +kernel
  have hbare : format "%+d".toText (.int 42) = .ok "+42".toText := by decide +kernel
  refine ⟨hformat, fun h => ?_⟩
  have hpadded := h (some .plus) ['0', '5'] 42 _ _ (by decide) (by decide) (by decide)
    (Directive.forall_mem_of_all (by decide)) hformat hbare
  exact absurd hpadded (by decide +kernel)

end Printf

end BraceTemplate
