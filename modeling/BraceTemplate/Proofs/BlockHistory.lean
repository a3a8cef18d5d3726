import BraceTemplate.Proofs.Block
import Mathlib.Data.List.Induction

/-!
# BraceTemplate.Proofs.BlockHistory

A block and its buffer after any sequence of operations. The length of the buffer is the length of
its text and no part is empty, whatever is rolled back (`Buffer.WellFormed`). As long as nothing but
the block rolls back, the history says what the block holds: it is open since its last opening, what
stood before that opening is still there, and what was appended since is what settling may drop
(`history_invariants`).

The invariant that carries the induction is `IsSince`: a state is reached from the state at the
opening by appending and recording only.
-/

namespace BraceTemplate

/-! ## The buffer -/

namespace Buffer

/-- The length counts the characters of the text, and every part has some. -/
structure WellFormed (b : Buffer) : Prop where
  length_eq : b.length = b.text.length
  ne_nil : ∀ part ∈ b.parts, part ≠ []

/-- The text of the parts before a mark. -/
def textBefore (mark : Nat) (b : Buffer) : Text := (b.parts.reverse.take mark).flatten

/-- The text of the parts behind a mark. -/
def textBehind (mark : Nat) (b : Buffer) : Text := (b.parts.reverse.drop mark).flatten

theorem textBefore_append_textBehind (mark : Nat) (b : Buffer) :
    b.textBefore mark ++ b.textBehind mark = b.text := by
  rw [textBefore, textBehind, text, ← List.flatten_append, List.take_append_drop]

theorem textBefore_mark_of_suffix {b c : Buffer} (h : b.parts <:+ c.parts) :
    c.textBefore b.mark = b.text := by
  obtain ⟨ps, hps⟩ := h
  rw [textBefore, text, ← hps, mark, List.reverse_append, ← List.length_reverse,
    List.take_left]

theorem mark_le_of_suffix {b c : Buffer} (h : b.parts <:+ c.parts) : b.mark ≤ c.mark :=
  h.length_le

/-- Counting the characters part by part. -/
theorem foldl_length (parts : List Text) (n : Nat) :
    parts.foldl (fun n part => n + part.length) n = n + parts.reverse.flatten.length := by
  induction parts generalizing n with
  | nil => rfl
  | cons part parts ih =>
    rw [List.foldl_cons, ih, List.reverse_cons, List.flatten_append, List.length_append,
      List.flatten_singleton]
    omega

namespace WellFormed

variable {b : Buffer}

theorem empty : WellFormed .empty := ⟨rfl, by simp [Buffer.empty]⟩

theorem append (h : b.WellFormed) (t : Text) : (b.append t).WellFormed := by
  refine ⟨?_, fun part hpart => ?_⟩
  · rw [text_append, List.length_append, ← h.length_eq]
    unfold Buffer.append
    split
    · rename_i hempty
      rw [List.isEmpty_iff.1 hempty, List.length_nil, Nat.add_zero]
    · rfl
  · unfold Buffer.append at hpart
    split at hpart
    · exact h.ne_nil part hpart
    · rename_i hempty
      rcases List.mem_cons.1 hpart with rfl | hpart
      · rintro rfl
        exact hempty rfl
      · exact h.ne_nil part hpart

/-- The length is counted again, so that it does not matter where the mark lies. -/
theorem rollback (h : b.WellFormed) (mark : Int) : (b.rollback mark).WellFormed := by
  refine ⟨?_, fun part hpart => ?_⟩
  · simp only [Buffer.rollback, text, foldl_length, Nat.zero_add]
  · exact h.ne_nil part (List.mem_of_mem_drop hpart)

end WellFormed

end Buffer

/-! ## Operations -/

namespace Block

inductive Operation where
  | append (t : Text)
  | rollback (mark : Int)
  | opening
  | closing
  | record (t : Text)
  | finishing
  deriving DecidableEq, Repr

namespace Operation

def apply (b : Block) : Operation → Block
  | append t => b.append t
  | rollback mark => { b with buffer := b.buffer.rollback mark }
  | opening => b.opened
  | closing => b.closed
  | record t => b.record t
  | finishing => b.finished

/-- The block in front is settled. -/
def settles : Operation → Bool
  | opening => true
  | closing => true
  | finishing => true
  | _ => false

/-- Nothing is rolled back but by settling. -/
def IsInner (o : Operation) : Prop := ∀ mark, o ≠ rollback mark

/-- The text that an operation appends. -/
def appended : Operation → Text
  | append t => t
  | _ => []

/-- The output that an operation takes note of. -/
def recorded : Operation → Text
  | record t => t
  | _ => []

@[simp] theorem appended_record (t : Text) : (record t).appended = [] := rfl

@[simp] theorem recorded_append (t : Text) : (append t).recorded = [] := rfl

@[simp] theorem recorded_record (t : Text) : (record t).recorded = t := rfl

end Operation

/-- The state behind a sequence of operations. -/
def after (ops : List Operation) : Block := ops.foldl Operation.apply start

theorem after_append_singleton (ops : List Operation) (o : Operation) :
    after (ops ++ [o]) = o.apply (after ops) := by
  rw [after, List.foldl_append, List.foldl_cons, List.foldl_nil, after]

theorem after_append (ops more : List Operation) :
    after (ops ++ more) = more.foldl Operation.apply (after ops) :=
  List.foldl_append

variable {b c : Block} {o : Operation} {ops before during : List Operation}

theorem wellFormed_settle (h : b.buffer.WellFormed) : b.settle.buffer.WellFormed := by
  unfold settle
  split
  · split
    · exact h
    · exact h.rollback _
  · exact h

theorem wellFormed_apply (h : b.buffer.WellFormed) (o : Operation) :
    (o.apply b).buffer.WellFormed := by
  cases o with
  | append t => exact h.append t
  | rollback mark => exact h.rollback mark
  | opening => exact wellFormed_settle h
  | closing => exact wellFormed_settle h
  | record t => exact h
  | finishing => exact wellFormed_settle h

theorem wellFormed_after (ops : List Operation) : (after ops).buffer.WellFormed := by
  induction ops using List.reverseRecOn with
  | nil => exact .empty
  | append_singleton ops o ih =>
    rw [after_append_singleton]
    exact wellFormed_apply ih o

/-! ## Since the opening -/

/-- The block is open since what stands behind `before`: nothing has settled it. -/
structure OpenSince (ops before during : List Operation) : Prop where
  eq : ops = before ++ .opening :: during
  not_settles : ∀ o ∈ during, o.settles = false

/-- The block `c` comes from `b` by appending the text `t` and taking note of the output `r`. -/
structure IsSince (b : Block) (t r : Text) (c : Block) : Prop where
  parts : b.buffer.parts <:+ c.buffer.parts
  text : c.buffer.text = b.buffer.text ++ t
  marker : c.marker = b.marker
  satisfied : c.satisfied = true ↔ b.satisfied = true ∨ r ≠ []

namespace IsSince

theorem refl (b : Block) : IsSince b [] [] b :=
  ⟨List.suffix_refl _, (List.append_nil _).symm, rfl, by simp⟩

/-- Appending and recording are all that an open block allows. -/
theorem step {t r : Text} (h : IsSince b t r c) (hsettles : o.settles = false) (ho : o.IsInner) :
    IsSince b (t ++ o.appended) (r ++ o.recorded) (o.apply c) := by
  cases o with
  | append u =>
    refine ⟨h.parts.trans (Buffer.suffix_parts_append u c.buffer), ?_, h.marker, ?_⟩
    · have htext := Buffer.text_append u c.buffer
      rwa [h.text, List.append_assoc] at htext
    · rw [Operation.recorded_append, List.append_nil]
      exact h.satisfied
  | record u =>
    refine ⟨h.parts, ?_, h.marker, ?_⟩
    · rw [Operation.appended_record, List.append_nil]
      exact h.text
    · have hnote : ((Operation.record u).apply c).satisfied = (c.satisfied || !u.isEmpty) := rfl
      simp [hnote, h.satisfied, or_iff_not_imp_left]
  | rollback mark => exact absurd rfl (ho mark)
  | opening => cases hsettles
  | closing => cases hsettles
  | finishing => cases hsettles

theorem foldl {t r : Text} (h : IsSince b t r c) (hsettles : ∀ o ∈ during, o.settles = false)
    (hinner : ∀ o ∈ during, o.IsInner) :
    IsSince b (t ++ during.flatMap Operation.appended) (r ++ during.flatMap Operation.recorded)
      (during.foldl Operation.apply c) := by
  induction during generalizing c t r with
  | nil => simpa using h
  | cons o during ih =>
    rw [List.forall_mem_cons] at hsettles hinner
    have hrest := ih (h.step hsettles.1 hinner.1) hsettles.2 hinner.2
    rwa [List.append_assoc, List.append_assoc] at hrest

end IsSince

theorem exists_openSince_append_singleton_iff :
    (∃ before during, OpenSince (ops ++ [o]) before during) ↔
      o = .opening ∨ (o.settles = false ∧ ∃ before during, OpenSince ops before during) := by
  constructor
  · rintro ⟨before, during, heq, hsettles⟩
    rcases List.eq_nil_or_concat during with rfl | ⟨during, p, rfl⟩
    · exact .inl (List.append_singleton_inj.1 heq).2
    · rw [List.concat_eq_append] at heq hsettles
      have hparts : ops ++ [o] = (before ++ .opening :: during) ++ [p] := by simpa using heq
      obtain ⟨rfl, rfl⟩ := List.append_singleton_inj.1 hparts
      rw [List.forall_mem_append, List.forall_mem_singleton] at hsettles
      exact .inr ⟨hsettles.2, before, during, rfl, hsettles.1⟩
  · rintro (rfl | ⟨ho, before, during, rfl, hsettles⟩)
    · exact ⟨ops, [], rfl, List.forall_mem_nil _⟩
    · refine ⟨before, during ++ [o], by simp, ?_⟩
      rw [List.forall_mem_append, List.forall_mem_singleton]
      exact ⟨hsettles, ho⟩

theorem isOpen_apply_iff :
    (o.apply b).isOpen = true ↔ o = .opening ∨ (o.settles = false ∧ b.isOpen = true) := by
  cases o <;> simp [Operation.apply, Operation.settles, isOpen, append, record, opened, closed,
    finished]

theorem isOpen_after_iff (ops : List Operation) :
    (after ops).isOpen = true ↔ ∃ before during, OpenSince ops before during := by
  induction ops using List.reverseRecOn with
  | nil =>
    refine iff_of_false (by decide) ?_
    rintro ⟨before, during, heq, -⟩
    simp at heq
  | append_singleton ops o ih =>
    rw [after_append_singleton, isOpen_apply_iff, ih, exists_openSince_append_singleton_iff]

/-- From the opening on, if nothing is rolled back from outside. -/
theorem OpenSince.isSince (h : OpenSince ops before during) (hinner : ∀ o ∈ ops, o.IsInner) :
    IsSince (after (before ++ [.opening])) (during.flatMap Operation.appended)
      (during.flatMap Operation.recorded) (after ops) := by
  have hduring : ∀ o ∈ during, o.IsInner := fun o ho =>
    hinner o (h.eq ▸ List.mem_append_right _ (List.mem_cons_of_mem _ ho))
  have hops : ops = (before ++ [.opening]) ++ during := by simp [h.eq]
  rw [hops, after_append _ during]
  exact (IsSince.refl _).foldl h.not_settles hduring

theorem marker_after_opening (before : List Operation) :
    (after (before ++ [.opening])).marker = some (after (before ++ [.opening])).buffer.mark := by
  rw [after_append_singleton]
  rfl

theorem satisfied_after_opening (before : List Operation) :
    (after (before ++ [.opening])).satisfied = false := by
  rw [after_append_singleton]
  rfl

/-! ## Settling -/

theorem buffer_apply_of_settles (h : o.settles = true) (b : Block) :
    (o.apply b).buffer = b.settle.buffer := by
  cases o with
  | append t => cases h
  | rollback mark => cases h
  | opening => rfl
  | closing => rfl
  | record t => cases h
  | finishing => rfl

theorem settle_of_not_isOpen (h : ¬ b.isOpen = true) : b.settle = b := by
  unfold settle
  split
  · rename_i m hmarker
    simp [isOpen, hmarker] at h
  · rfl

theorem settle_of_satisfied (h : b.satisfied = true) : b.settle = b := by
  unfold settle
  split
  · rw [if_pos h]
  · rfl

/-- An unsatisfied block is settled by going back to where it was opened. -/
theorem IsSince.text_settle {t r : Text} (h : IsSince b t r c)
    (hmarker : b.marker = some b.buffer.mark) (hsatisfied : c.satisfied = false) :
    c.settle.buffer.text = b.buffer.text := by
  have hparts := Buffer.parts_rollback_mark h.parts
  unfold settle
  rw [h.marker, hmarker]
  simp only [hsatisfied, Bool.false_eq_true, if_false]
  exact Buffer.text_eq_of_parts hparts

theorem isOpen_of_text_settle_ne (h : b.settle.buffer.text ≠ b.buffer.text) : b.isOpen = true := by
  by_contra hclosed
  rw [settle_of_not_isOpen hclosed] at h
  exact h rfl

section

variable (h : OpenSince ops before during) (hinner : ∀ o ∈ ops, o.IsInner)

include h hinner

/-- What an open block holds. -/
theorem OpenSince.holds :
    let a := after (before ++ [.opening])
    let b := after ops
    b.marker = some a.buffer.mark ∧ a.buffer.mark ≤ b.buffer.mark ∧
      b.buffer.textBefore a.buffer.mark = a.buffer.text ∧
      b.buffer.textBehind a.buffer.mark = during.flatMap Operation.appended ∧
      (b.satisfied = true ↔ during.flatMap Operation.recorded ≠ []) := by
  intro a b
  have hsince : IsSince a _ _ b := h.isSince hinner
  have hbefore := Buffer.textBefore_mark_of_suffix hsince.parts
  have hsplit := b.buffer.textBefore_append_textBehind a.buffer.mark
  rw [hbefore, hsince.text, List.append_cancel_left_eq] at hsplit
  refine ⟨hsince.marker.trans (marker_after_opening before),
    Buffer.mark_le_of_suffix hsince.parts, hbefore, hsplit, ?_⟩
  simpa [a, satisfied_after_opening] using hsince.satisfied

theorem OpenSince.text_settle (hsatisfied : (after ops).satisfied = false) :
    (after ops).settle.buffer.text = (after (before ++ [.opening])).buffer.text :=
  (h.isSince hinner).text_settle (marker_after_opening before) hsatisfied

theorem OpenSince.text_settle_ne_iff :
    (after ops).settle.buffer.text ≠ (after ops).buffer.text ↔
      (after ops).satisfied = false ∧ during.flatMap Operation.appended ≠ [] := by
  cases hsatisfied : (after ops).satisfied with
  | true => simp [settle_of_satisfied hsatisfied]
  | false => simp [h.text_settle hinner hsatisfied, (h.isSince hinner).text]

end

/-- After any operations the length of the buffer is the length of its text and no part is empty. If
nothing is rolled back but by settling, the block is open exactly if the history has an opening that
nothing has settled. Then its marker is where the parts ended at the opening, the text before it is
as it was then, and behind it is what was appended since. The operations that settle a block change
the text exactly if the block is open and unsatisfied and text was appended since the opening, and
then the text is again what it was at the opening. -/
theorem history_invariants (ops : List Operation) :
    let b := after ops
    (b.buffer.length = b.buffer.text.length ∧ ∀ part ∈ b.buffer.parts, part ≠ []) ∧
    ((∀ mark, .rollback mark ∉ ops) →
      (b.isOpen = true ↔ ∃ before during, OpenSince ops before during) ∧
      (∀ before during, OpenSince ops before during →
        let a := after (before ++ [.opening])
        b.marker = some a.buffer.mark ∧ a.buffer.mark ≤ b.buffer.mark ∧
        b.buffer.textBefore a.buffer.mark = a.buffer.text ∧
        b.buffer.textBehind a.buffer.mark = during.flatMap Operation.appended ∧
        (b.satisfied = true ↔ during.flatMap Operation.recorded ≠ [])) ∧
      ∀ o : Operation, o.settles = true →
        ((o.apply b).buffer.text ≠ b.buffer.text ↔
          b.isOpen = true ∧ b.satisfied = false ∧
            ∃ before during, OpenSince ops before during ∧
              during.flatMap Operation.appended ≠ []) ∧
        ∀ before during, OpenSince ops before during →
          (o.apply b).buffer.text ≠ b.buffer.text →
            (o.apply b).buffer.text = (after (before ++ [.opening])).buffer.text) := by
  intro b
  have hwell := wellFormed_after ops
  refine ⟨⟨hwell.length_eq, hwell.ne_nil⟩, fun hrollback => ?_⟩
  have hinner : ∀ o ∈ ops, o.IsInner := by
    rintro o ho mark rfl
    exact hrollback mark ho
  refine ⟨isOpen_after_iff ops, fun before during hsince => hsince.holds hinner, fun o ho => ?_⟩
  rw [buffer_apply_of_settles ho]
  refine ⟨⟨fun hne => ?_, ?_⟩, fun before during hsince hne => ?_⟩
  · have hopen := isOpen_of_text_settle_ne hne
    obtain ⟨before, during, hsince⟩ := (isOpen_after_iff ops).1 hopen
    obtain ⟨hsatisfied, happended⟩ := (hsince.text_settle_ne_iff hinner).1 hne
    exact ⟨hopen, hsatisfied, before, during, hsince, happended⟩
  · rintro ⟨-, hsatisfied, before, during, hsince, happended⟩
    exact (hsince.text_settle_ne_iff hinner).2 ⟨hsatisfied, happended⟩
  · exact hsince.text_settle hinner ((hsince.text_settle_ne_iff hinner).1 hne).1

/-- A block that is not satisfied is dropped when the next one is opened, and a part with it. -/
theorem history_invariants_reopened :
    let before := [Operation.append "keep".toText]
    let during := [Operation.append "drop".toText, .append [], .record []]
    let ops := before ++ .opening :: during
    OpenSince ops before during ∧ (∀ mark, .rollback mark ∉ ops) ∧
      Operation.opening.settles = true ∧
      (after ops).marker = some 1 ∧ (after ops).buffer.text = "keepdrop".toText ∧
      (Operation.opening.apply (after ops)).buffer.text = "keep".toText := by
  intro before during ops
  have hsince : OpenSince ops before during := ⟨rfl, by decide⟩
  have hrollback : ∀ mark, .rollback mark ∉ ops := by simp [ops, before, during]
  obtain ⟨-, hinner⟩ := history_invariants ops
  obtain ⟨-, hopen, hsettle⟩ := hinner hrollback
  obtain ⟨hmarker, -, -, -, -⟩ := hopen before during hsince
  obtain ⟨hchange, hrestore⟩ := hsettle .opening rfl
  have happended : during.flatMap Operation.appended ≠ [] := by decide
  refine ⟨hsince, hrollback, rfl, hmarker, by decide, ?_⟩
  exact hrestore before during hsince
    (hchange.2 ⟨by decide, by decide, before, during, hsince, happended⟩)

end Block

end BraceTemplate
