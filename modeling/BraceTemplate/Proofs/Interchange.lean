import BraceTemplate.Proofs.Acceptance
import Mathlib.Data.Nat.Digits.Defs

/-!
# BraceTemplate.Proofs.Interchange

An operand may be written out or be passed as a parameter. A literal is resolved to what a fixed
position resolves to where the parameter is the literal's text, and a bound also to what it resolves
to where the parameter is the integer that the text denotes (`Number.denoted`). An operator looks at
its operands only by resolving them (`applyText_setOperand`), so the two ways of writing it cannot
be told apart (`apply_fixed_eq`).
-/

namespace BraceTemplate

/-! ## The integer of a text -/

namespace Number

/-- The integer that a text denotes: its decimal digits in base ten, the most significant first,
and less than zero behind a minus sign. -/
def denoted (t : Text) : Int :=
  let magnitude : Nat := Nat.ofDigits 10 (t.filterMap Text.digitValue?).reverse
  if t.head? = some (.char '-') then -(magnitude : Int) else magnitude

theorem digitsValue_append_digit {c : CodePoint} {d : Nat} (h : Text.digitValue? c = some d)
    (t : Text) :
    digitsValue (t ++ [c]) = 10 * digitsValue t + d := by
  simp [digitsValue, digitsValue.digitValue, h]

theorem digitsValue_append_other {c : CodePoint} (h : Text.digitValue? c = none) (t : Text) :
    digitsValue (t ++ [c]) = digitsValue t := by
  simp [digitsValue, digitsValue.digitValue, h]

/-- By induction on the text from its end, where the least significant digit is. -/
theorem digitsValue_eq_ofDigits (t : Text) :
    digitsValue t = Nat.ofDigits 10 (t.filterMap Text.digitValue?).reverse := by
  induction t using List.reverseRecOn with
  | nil => rfl
  | append_singleton t c ih =>
    rw [List.filterMap_append, List.reverse_append]
    cases hd : Text.digitValue? c with
    | none => simp [digitsValue_append_other hd, hd, ih]
    | some d => simp [digitsValue_append_digit hd, hd, ih, Nat.ofDigits_cons, Nat.add_comm]

/-- What is no digit counts for nothing. -/
theorem digitsValue_filter (t : Text) : digitsValue (t.filter Text.isDecimal) = digitsValue t := by
  rw [digitsValue_eq_ofDigits, digitsValue_eq_ofDigits, List.filterMap_filter]
  congr 3
  funext c
  unfold Text.isDecimal
  cases Text.digitValue? c with
  | none => rfl
  | some d => rfl

theorem readInteger_eq_denoted {t : Text} (h : t.countP Text.isDecimal ≤ maxDigits) :
    readInteger t = .ok (denoted t) := by
  have hlength : ¬ maxDigits < (t.filter Text.isDecimal).length := by
    rw [← List.countP_eq_length_filter]
    omega
  have hdigits : readDigits (t.filter Text.isDecimal) =
      .ok (Nat.ofDigits 10 (t.filterMap Text.digitValue?).reverse) := by
    rw [readDigits, if_neg hlength, digitsValue_filter, digitsValue_eq_ofDigits]
  unfold readInteger denoted
  rw [hdigits]
  cases t with
  | nil => rfl
  | cons c t =>
    by_cases hc : c = '-'
    · subst hc
      rfl
    · simp [hc]

end Number

/-! ## Operands -/

/-- The text of an integer that is passed as a value is read as the text itself is. -/
theorem Value.ofExcept_toInteger_text {v : Text} (hv : Number.isIntegerText v = true) :
    Evaluation.ofExcept (Value.text v).toInteger = Evaluation.ofFault (Number.readInteger v) := by
  cases v with
  | nil => exact absurd hv (by decide)
  | cons c t =>
    simp only [toInteger, toText, hv, if_true]
    cases Number.readInteger (c :: t) with
    | ok i => rfl
    | error f => rfl

namespace Reference

variable {ctx : Context} {n : Int} {v : Text} {w : Value}

theorem resolveText_fixed (h : ctx.parameter? n = some w) :
    (fixed n).resolveText ctx = some <$> Evaluation.ofFault w.toText := by
  simp [resolveText, resolveValue, h]

theorem resolveInteger_fixed (h : ctx.parameter? n = some w) :
    (fixed n).resolveInteger ctx = Evaluation.ofExcept w.toInteger := by
  simp only [resolveInteger, resolveValue, h, pure_bind]
  cases w.toInteger with
  | ok i => rfl
  | error e => rfl

theorem IsInteger.isIntegerText (h : (literal (some v)).IsInteger) :
    Number.isIntegerText v = true := by
  obtain ⟨_, hv, hinteger⟩ := h _ rfl
  cases hv
  exact hinteger

/-- A bound is resolved alike as a literal and as a parameter that is its text. -/
theorem resolveInteger_fixed_text (hv : (literal (some v)).IsInteger)
    (h : ctx.parameter? n = some (.text v)) :
    (fixed n).resolveInteger ctx = (literal (some v)).resolveInteger ctx := by
  have hinteger := hv.isIntegerText
  rw [resolveInteger_fixed h, Value.ofExcept_toInteger_text hinteger, resolveInteger,
    if_pos hinteger]

/-- And as a parameter that is the integer itself, if it has no more digits than are read. -/
theorem resolveInteger_fixed_int (hv : (literal (some v)).IsInteger)
    (hdigits : v.countP Text.isDecimal ≤ Number.maxDigits)
    (h : ctx.parameter? n = some (.int (Number.denoted v))) :
    (fixed n).resolveInteger ctx = (literal (some v)).resolveInteger ctx := by
  have hinteger := hv.isIntegerText
  rw [resolveInteger_fixed h, resolveInteger, if_pos hinteger,
    Number.readInteger_eq_denoted hdigits]
  rfl

end Reference

/-! ## Operators -/

namespace Operator

/-- The operator with another operand at an index. -/
def setOperand (i : Nat) (r : Reference) (o : Operator) : Operator :=
  match o, i with
  | slice _ stop, 0 => slice r stop
  | slice start _, 1 => slice start r
  | sliceLength _ length, 0 => sliceLength r length
  | sliceLength start _, 1 => sliceLength start r
  | extract _ group, 0 => extract r group
  | extract pattern _, 1 => extract pattern r
  | printf _, 0 => printf r
  | date _ zone, 0 => date r zone
  | date pattern _, 1 => date pattern r
  | o, _ => o

/-- Whether the operands are bounds, which are resolved to integers and not to texts. -/
def hasBounds : Operator → Bool
  | slice _ _ => true
  | sliceLength _ _ => true
  | _ => false

theorem operands_setOperand (i : Nat) (r : Reference) (o : Operator) :
    (o.setOperand i r).operands = o.operands.set i r := by
  cases o with
  | slice first second | sliceLength first second | extract first second | date first second =>
    rcases i with _ | _ | i
    · rfl
    · rfl
    · rfl
  | printf specifier =>
    rcases i with _ | i
    · rfl
    · rfl
  | _ => rfl

/-- What an operator does depends on an operand only through what it is resolved to. -/
theorem applyText_setOperand (ctx : Context) {o : Operator} {i : Nat} {r s : Reference}
    (hr : o.operands[i]? = some r)
    (hbound : o.hasBounds = true → s.resolveInteger ctx = r.resolveInteger ctx)
    (htext : o.hasBounds = false → s.resolveText ctx = r.resolveText ctx) (u : Value) :
    (o.setOperand i s).applyText ctx u = o.applyText ctx u := by
  cases o with
  | slice first second | sliceLength first second =>
    rcases i with _ | _ | i
    · cases hr
      simp only [setOperand, applyText, hbound rfl]
    · cases hr
      simp only [setOperand, applyText, hbound rfl]
    · cases hr
  | extract first second | date first second =>
    rcases i with _ | _ | i
    · cases hr
      simp only [setOperand, applyText, applyExtract, applyDate, htext rfl]
    · cases hr
      simp only [setOperand, applyText, applyExtract, applyDate, htext rfl]
    · cases hr
  | printf specifier =>
    rcases i with _ | i
    · cases hr
      simp only [setOperand, applyText, htext rfl]
    · cases hr
  | _ => cases hr

theorem IsAccepted.isInteger_of_getElem? {o : Operator} (h : o.IsAccepted)
    (hbounds : o.hasBounds = true) {i : Nat} {r : Reference} (hr : o.operands[i]? = some r) :
    r.IsInteger := by
  cases o with
  | slice first second | sliceLength first second =>
    rcases i with _ | _ | i
    · cases hr
      exact h.1
    · cases hr
      exact h.2
    · cases hr
  | _ => cases hbounds

end Operator

/-- A literal operand of an operator that was read from a body may be passed as a parameter: with a
fixed position in its place, at which the parameter is the literal's text, the operator does the
same to every value, from every cursor, result, failure and cursor behind it alike. A bound may also
be passed as the integer that it denotes. -/
theorem apply_fixed_eq {raw : Text} {b : Body} (hcompile : Body.compile raw = .ok (some b))
    {o : Operator} (ho : o ∈ b.operators) {i : Nat} {v : Text}
    (hv : o.operands[i]? = some (.literal (some v))) (ctx : Context) (n : Int) :
    (o.setOperand i (.fixed n)).operands = o.operands.set i (.fixed n) ∧
    (ctx.parameter? n = some (.text v) →
      ∀ u, (o.setOperand i (.fixed n)).apply ctx u = o.apply ctx u) ∧
    (o.hasBounds = true → v.countP Text.isDecimal ≤ Number.maxDigits →
      ctx.parameter? n = some (.int (Number.denoted v)) →
      ∀ u, (o.setOperand i (.fixed n)).apply ctx u = o.apply ctx u) := by
  have hinteger : o.hasBounds = true → (Reference.literal (some v)).IsInteger := fun hbounds =>
    (Operator.isAccepted_of_compile hcompile ho).isInteger_of_getElem? hbounds hv
  refine ⟨Operator.operands_setOperand i _ o, ?_, ?_⟩
  · intro hn u
    have htext := Operator.applyText_setOperand ctx hv
      (fun hbounds => Reference.resolveInteger_fixed_text (hinteger hbounds) hn)
      (fun _ => Reference.resolveText_fixed hn) u
    rw [Operator.apply, Operator.apply, htext]
  · intro hbounds hdigits hn u
    have htext := Operator.applyText_setOperand ctx hv
      (fun _ => Reference.resolveInteger_fixed_int (hinteger hbounds) hdigits hn)
      (fun hnone => absurd hbounds (by simp [hnone])) u
    rw [Operator.apply, Operator.apply, htext]

/-- The end of a slice, passed as a text and as an integer. -/
theorem apply_fixed_eq_slice :
    let bounds := Operator.slice (.literal (some ['4'])) (.literal (some ['8']))
    let passed := Operator.slice (.literal (some ['4'])) (.fixed 2)
    let word := Value.text "hamburger".toText
    Body.compile "[4,8]".toText = .ok (some ⟨"[4,8]".toText, .next, [bounds]⟩) ∧
      bounds.setOperand 1 (.fixed 2) = passed ∧ Number.denoted ['8'] = 8 ∧
      passed.apply ⟨[word, .text ['8']], [], none⟩ word =
        bounds.apply ⟨[word, .text ['8']], [], none⟩ word ∧
      passed.apply ⟨[word, .int 8], [], none⟩ word =
        bounds.apply ⟨[word, .int 8], [], none⟩ word := by
  intro bounds passed word
  have hcompile : Body.compile "[4,8]".toText =
      .ok (some ⟨"[4,8]".toText, .next, [bounds]⟩) := by decide +kernel
  have heq := fun ctx => apply_fixed_eq hcompile List.mem_cons_self (i := 1) (v := ['8']) rfl ctx 2
  exact ⟨hcompile, rfl, by decide, (heq _).2.1 rfl word, (heq _).2.2 rfl (by decide) rfl word⟩

end BraceTemplate
