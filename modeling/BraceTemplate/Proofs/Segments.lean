import BraceTemplate.Expansion
import BraceTemplate.Proofs.Block
import Mathlib.Data.List.TakeWhile

/-!
# BraceTemplate.Proofs.Segments

What conditional blocks mean. The tokens are cut at the markers, and a block runs from the marker
that opens it to the next marker or to the end; all else is unconditional. Every segment is
evaluated, from left to right and with one cursor; then the text is put together from the
unconditional segments and from the blocks in which a replacement gave text.

* `runAll_eq_outputsAll`: the run with its buffer, mark and flag gives the text of the segments,
  with the same cursor and the same failure.
* `expand_iff_segments`: the same of a whole template.
-/

namespace BraceTemplate

/-- What a token adds to the output. -/
structure Output where
  text : Text
  /-- Whether a replacement gave it. -/
  isReplaced : Bool
  deriving DecidableEq, Repr

namespace Output

/-- Whether the output keeps the block that it is in. -/
def fills (o : Output) : Bool := o.isReplaced && !o.text.isEmpty

end Output

namespace Token

def isMarker : Token → Bool
  | blockOpen => true
  | blockClose => true
  | _ => false

/-- A marker adds nothing. -/
def output [Packages] (ctx : Context) (clock : Calendar.Moment) : Token → Evaluation Output
  | literal text => pure ⟨text, false⟩
  | blockOpen => pure ⟨[], false⟩
  | blockClose => pure ⟨[], false⟩
  | replacement escape body => do pure ⟨← replace ctx clock escape body, true⟩

end Token

/-- The tokens between two markers. -/
structure Segment where
  isBlock : Bool
  tokens : List Token
  deriving DecidableEq, Repr

namespace Segment

/-- The segments of a list of tokens, the first of which is a block or not. -/
def cutFrom (isBlock : Bool) (ts : List Token) : List Segment :=
  match _h : ts.dropWhile (!·.isMarker) with
  | [] => [⟨isBlock, ts⟩]
  | m :: rest => ⟨isBlock, ts.takeWhile (!·.isMarker)⟩ :: cutFrom (m = .blockOpen) rest
termination_by ts.length
decreasing_by
  have := (List.dropWhile_suffix (!·.isMarker) (l := ts)).length_le
  simp only [_h, List.length_cons] at this
  omega

/-- The segments of a template's tokens. -/
def cut (ts : List Token) : List Segment := cutFrom false ts

def outputs [Packages] (ctx : Context) (clock : Calendar.Moment) (s : Segment) :
    Evaluation (List Output) :=
  s.tokens.mapM (Token.output ctx clock)

/-- The outputs of all segments, dropped or not, with one cursor. -/
def outputsAll [Packages] (ctx : Context) (clock : Calendar.Moment) (ss : List Segment) :
    Evaluation (List (List Output)) :=
  ss.mapM (outputs ctx clock)

/-- The text of a segment: none if it is a block in which no replacement gave text. -/
def kept (s : Segment) (os : List Output) : Text :=
  if s.isBlock ∧ ¬ os.any Output.fills then [] else os.flatMap Output.text

def joined (ss : List Segment) (os : List (List Output)) : Text := (List.zipWith kept ss os).flatten

end Segment

namespace Block

/-- The block behind an output. -/
def add (b : Block) (o : Output) : Block :=
  if o.isReplaced then (b.append o.text).record o.text else b.append o.text

/-- The start of a segment: the mark of a block is the end of the buffer. -/
structure Begins (isBlock : Bool) (b : Block) : Prop where
  marker : b.marker = if isBlock then some b.buffer.mark else none
  satisfied : isBlock = true → b.satisfied = false

theorem buffer_add (b : Block) (o : Output) : (b.add o).buffer = b.buffer.append o.text := by
  unfold add
  split <;> rfl

theorem marker_add (b : Block) (o : Output) : (b.add o).marker = b.marker := by
  unfold add
  split <;> rfl

theorem satisfied_add (b : Block) (o : Output) :
    (b.add o).satisfied = (b.satisfied || o.fills) := by
  unfold add Output.fills
  cases o.isReplaced <;> simp [record, append]

theorem marker_foldl_add (os : List Output) (b : Block) : (os.foldl add b).marker = b.marker := by
  induction os generalizing b with
  | nil => rfl
  | cons o os ih => rw [List.foldl_cons, ih, marker_add]

theorem satisfied_foldl_add (os : List Output) (b : Block) :
    (os.foldl add b).satisfied = (b.satisfied || os.any Output.fills) := by
  induction os generalizing b with
  | nil => simp
  | cons o os ih => rw [List.foldl_cons, ih, satisfied_add, List.any_cons, Bool.or_assoc]

theorem text_foldl_add (os : List Output) (b : Block) :
    (os.foldl add b).buffer.text = b.buffer.text ++ os.flatMap Output.text := by
  induction os generalizing b with
  | nil => simp
  | cons o os ih =>
    rw [List.foldl_cons, ih, buffer_add, Buffer.text_append, List.flatMap_cons, List.append_assoc]

theorem suffix_parts_foldl_add (os : List Output) (b : Block) :
    b.buffer.parts <:+ (os.foldl add b).buffer.parts := by
  induction os generalizing b with
  | nil => exact List.suffix_refl _
  | cons o os ih =>
    rw [List.foldl_cons]
    refine List.IsSuffix.trans ?_ (ih (b.add o))
    rw [buffer_add]
    exact Buffer.suffix_parts_append _ _

/-- Settling keeps what stood before the segment and, of the segment, what it keeps. -/
theorem text_settle_foldl_add {isBlock : Bool} {b : Block} (h : Begins isBlock b)
    (ts : List Token) (os : List Output) :
    (os.foldl add b).settle.buffer.text =
      b.buffer.text ++ Segment.kept ⟨isBlock, ts⟩ os := by
  have hm := (marker_foldl_add os b).trans h.marker
  unfold settle Segment.kept
  cases isBlock with
  | false =>
    simp only [Bool.false_eq_true, if_false] at hm
    simp [hm, text_foldl_add]
  | true =>
    simp only [if_true] at hm
    have hs := satisfied_foldl_add os b
    rw [h.satisfied rfl, Bool.false_or] at hs
    rw [hm]
    cases hf : os.any Output.fills with
    | true =>
      rw [hf] at hs
      simp [hs, text_foldl_add]
    | false =>
      rw [hf] at hs
      have hparts := Buffer.parts_rollback_mark (suffix_parts_foldl_add os b)
      simp [hs, Buffer.text_eq_of_parts hparts]

theorem begins_start : Begins false start := ⟨rfl, fun h => by cases h⟩

theorem begins_opened (b : Block) : Begins true b.opened := ⟨rfl, fun _ => rfl⟩

theorem begins_closed (b : Block) : Begins false b.closed := ⟨rfl, fun h => by cases h⟩

end Block

namespace Token

theorem run_of_not_isMarker [Packages] {ctx : Context} {clock : Calendar.Moment} {t : Token}
    (h : t.isMarker = false) (b : Block) :
    t.run ctx clock b = b.add <$> t.output ctx clock := by
  cases t with
  | literal text => simp [run, output, Block.add]
  | blockOpen => cases h
  | blockClose => cases h
  | replacement escape body => simp [run, output, Block.add]

theorem runAll_append [Packages] (ctx : Context) (clock : Calendar.Moment) (ts us : List Token)
    (b : Block) :
    runAll ctx clock (ts ++ us) b = runAll ctx clock ts b >>= runAll ctx clock us := by
  induction ts generalizing b with
  | nil => simp [runAll]
  | cons t ts ih => simp [runAll, ih]

theorem runAll_of_not_isMarker [Packages] {ctx : Context} {clock : Calendar.Moment}
    {ts : List Token}
    (h : ∀ t ∈ ts, t.isMarker = false) (b : Block) :
    runAll ctx clock ts b =
      (fun os => os.foldl Block.add b) <$> ts.mapM (Token.output ctx clock) := by
  induction ts generalizing b with
  | nil => simp [runAll]
  | cons t ts ih =>
    rw [runAll, run_of_not_isMarker (h t (by simp)), List.mapM_cons, bind_map_left, map_bind]
    congr 1
    funext o
    rw [ih (fun u hu => h u (by simp [hu]))]
    simp

end Token

namespace Segment

theorem cutFrom_of_markerless {ts : List Token} (h : ts.dropWhile (!·.isMarker) = [])
    (isBlock : Bool) : cutFrom isBlock ts = [⟨isBlock, ts⟩] := by
  rw [cutFrom]
  split
  · rfl
  · rename_i hm
    rw [h] at hm
    cases hm

theorem cutFrom_of_marker {ts rest : List Token} {m : Token}
    (h : ts.dropWhile (!·.isMarker) = m :: rest) (isBlock : Bool) :
    cutFrom isBlock ts =
      ⟨isBlock, ts.takeWhile (!·.isMarker)⟩ :: cutFrom (m = .blockOpen) rest := by
  rw [cutFrom]
  split
  · rename_i hm
    rw [h] at hm
    cases hm
  · rename_i hm
    rw [h] at hm
    cases hm
    rfl

theorem isMarker_of_mem_takeWhile {ts : List Token} {t : Token}
    (h : t ∈ ts.takeWhile (!·.isMarker)) : t.isMarker = false := by
  simpa using List.mem_takeWhile_imp h

theorem run_marker [Packages] (ctx : Context) (clock : Calendar.Moment) {m : Token}
    (h : m.isMarker = true) (b : Block) :
    ∃ c, m.run ctx clock b = pure c ∧ Block.Begins (m = .blockOpen) c ∧
      c.buffer.text = b.settle.buffer.text := by
  cases m with
  | literal text => cases h
  | blockOpen => exact ⟨b.opened, rfl, by simpa using Block.begins_opened b, rfl⟩
  | blockClose => exact ⟨b.closed, rfl, by simpa using Block.begins_closed b, rfl⟩
  | replacement escape body => cases h

theorem outputsAll_singleton [Packages] (ctx : Context) (clock : Calendar.Moment) (s : Segment) :
    outputsAll ctx clock [s] = (fun os => [os]) <$> s.outputs ctx clock := by
  simp [outputsAll]

theorem outputsAll_cons [Packages] (ctx : Context) (clock : Calendar.Moment) (s : Segment)
    (ss : List Segment) :
    outputsAll ctx clock (s :: ss) =
      s.outputs ctx clock >>= fun os => (fun oss => os :: oss) <$> outputsAll ctx clock ss := by
  simp [outputsAll]

/-- From the start of a segment, by induction on the segments. -/
theorem runAll_eq_outputsAll [Packages] (ctx : Context) (clock : Calendar.Moment)
    (isBlock : Bool)
    (ts : List Token) {b : Block} (h : Block.Begins isBlock b) :
    (fun c => c.finished.buffer.text) <$> Token.runAll ctx clock ts b =
      (fun os => b.buffer.text ++ joined (cutFrom isBlock ts) os) <$>
        outputsAll ctx clock (cutFrom isBlock ts) := by
  induction isBlock, ts using cutFrom.induct generalizing b with
  | case1 isBlock ts hm =>
    have hts : ∀ t ∈ ts, t.isMarker = false := by
      simpa [List.dropWhile_eq_nil_iff] using hm
    have htext : ∀ os : List Output, (os.foldl Block.add b).finished.buffer.text =
        b.buffer.text ++ joined [⟨isBlock, ts⟩] [os] := by
      intro os
      simpa [joined, Block.finished] using Block.text_settle_foldl_add h ts os
    rw [cutFrom_of_markerless hm, outputsAll_singleton, Token.runAll_of_not_isMarker hts]
    simp only [Functor.map_map, htext]
    rfl
  | case2 isBlock ts m rest hm ih =>
    have hmark : m.isMarker = true := by
      have := List.head_dropWhile_not (p := (!·.isMarker)) (l := ts) (by simp [hm])
      simpa [hm] using this
    have hts : ts.takeWhile (!·.isMarker) ++ m :: rest = ts := by
      rw [← hm, List.takeWhile_append_dropWhile]
    have hrun : Token.runAll ctx clock ts b =
        (ts.takeWhile (!·.isMarker)).mapM (Token.output ctx clock) >>= fun os =>
          Token.runAll ctx clock (m :: rest) (os.foldl Block.add b) := by
      conv => lhs; rw [← hts]
      rw [Token.runAll_append, Token.runAll_of_not_isMarker fun t => isMarker_of_mem_takeWhile,
        bind_map_left]
    rw [cutFrom_of_marker hm, outputsAll_cons, hrun]
    simp only [map_bind, Functor.map_map]
    refine congrArg (outputs ctx clock ⟨isBlock, ts.takeWhile (!·.isMarker)⟩ >>= ·) ?_
    funext os
    obtain ⟨c, hc, hbegins, htext⟩ := run_marker ctx clock hmark (os.foldl Block.add b)
    rw [Token.runAll, hc, pure_bind, ih hbegins, htext,
      Block.text_settle_foldl_add h (ts.takeWhile (!·.isMarker)) os]
    simp [joined]

end Segment

namespace Evaluation

/-- The result of an evaluation that starts with no parameter taken. -/
def outcome {α : Type} (x : Evaluation α) : Except Failure α :=
  match x.run 0 with
  | .ok a _ => .ok a
  | .error e _ => .error e

variable {α β : Type}

theorem run_map (f : α → β) (x : Evaluation α) (n : Nat) :
    (f <$> x).run n =
      match x.run n with
      | .ok a m => .ok (f a) m
      | .error e m => .error e m := by
  show EStateM.map f x n = _
  unfold EStateM.map EStateM.run
  cases x n with
  | ok a m => rfl
  | error e m => rfl

theorem outcome_map_eq_ok_iff {f : α → β} {x : Evaluation α} {b : β} :
    outcome (f <$> x) = .ok b ↔ ∃ a position, x.run 0 = .ok a position ∧ b = f a := by
  unfold outcome
  rw [run_map]
  cases x.run 0 with
  | ok a position => simp [eq_comm]
  | error e position => simp

theorem outcome_map_eq_error_iff {f : α → β} {x : Evaluation α} {e : Failure} :
    outcome (f <$> x) = .error e ↔ ∃ position, x.run 0 = .error e position := by
  unfold outcome
  rw [run_map]
  cases x.run 0 with
  | ok a position => simp
  | error e position => simp

end Evaluation

theorem expand_eq_outcome [Packages] {template : Text} (h : (scan template).fault = none)
    (settings : Settings) (clock : Calendar.Moment) (parameters : List Value) :
    expand settings clock template parameters =
      Evaluation.outcome ((fun b => b.finished.buffer.text) <$>
        Token.runAll (settings.context parameters) clock (scan template).tokens .start) := by
  unfold expand Evaluation.outcome
  simp only [h, Evaluation.run_map]
  cases (Token.runAll (settings.context parameters) clock (scan template).tokens .start).run 0 with
  | ok b position => rfl
  | error e position => rfl

/-- A template expands to the text of its segments, and fails where their evaluation fails. The
cursor is behind all the parameters that were taken, also in the blocks that are dropped. -/
theorem expand_iff_segments [Packages] (settings : Settings) (clock : Calendar.Moment)
    (template : Text) (parameters : List Value) (h : (scan template).fault = none) :
    let ctx := settings.context parameters
    let tokens := (scan template).tokens
    let evaluation := Segment.outputsAll ctx clock (Segment.cut tokens)
    (∀ text, expand settings clock template parameters = .ok text ↔
      ∃ os position, evaluation.run 0 = .ok os position ∧
        text = Segment.joined (Segment.cut tokens) os) ∧
    (∀ e, expand settings clock template parameters = .error e ↔
      ∃ position, evaluation.run 0 = .error e position) ∧
    (fun b => b.finished.buffer.text) <$> Token.runAll ctx clock tokens .start =
      Segment.joined (Segment.cut tokens) <$> evaluation := by
  intro ctx tokens evaluation
  have hrun : (fun b => b.finished.buffer.text) <$> Token.runAll ctx clock tokens .start =
      Segment.joined (Segment.cut tokens) <$> evaluation :=
    Segment.runAll_eq_outputsAll ctx clock false tokens Block.begins_start
  have hexpand := expand_eq_outcome h settings clock parameters
  rw [hrun] at hexpand
  refine ⟨fun text => ?_, fun e => ?_, hrun⟩
  · rw [hexpand, Evaluation.outcome_map_eq_ok_iff]
  · rw [hexpand, Evaluation.outcome_map_eq_error_iff]

/-- A dropped block: the second parameter is taken behind it, and its text is gone. -/
theorem expand_dropped :
    ∃ os position,
      (Segment.outputsAll (Settings.context {} [.text [], .text ['x']]) ⟨0, some 0⟩
        (Segment.cut (scan "a{?}b{}{.}c{}".toText).tokens)).run 0 = .ok os position ∧
      "acx".toText = Segment.joined (Segment.cut (scan "a{?}b{}{.}c{}".toText).tokens) os :=
  ((expand_iff_segments {} ⟨0, some 0⟩ "a{?}b{}{.}c{}".toText [.text [], .text ['x']]
    (by decide +kernel)).1 _).1 (by decide +kernel)

end BraceTemplate
