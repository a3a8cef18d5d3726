import BraceTemplate.Proofs.Application
import BraceTemplate.Proofs.Walk

/-!
# BraceTemplate.Proofs.Markers

The walk of a report and the run of an expansion agree on where a block is open: the first keeps a
truth value, the second a mark, a flag and a buffer that may be rolled back. So the markers that are
warned of are those that find the block as the warning says, and a close marker that finds no open
block may be left out of the tokens (`markers_of_validate`).

* `Block.Alike`: blocks that no token tells apart. The flag counts only while the block is open, so
  closing a block that is not open leads to a block like it.
* `runAll_dropStrayCloses`: the simulation, by induction on the tokens.
-/

namespace BraceTemplate

open Token (sources)

/-! ## The run at a marker -/

namespace Token

variable {ctx : Context} {clock : Calendar.Moment}

/-- The block behind a token that has given an output. -/
def take (t : Token) (b : Block) (o : Output) : Block :=
  match t with
  | blockOpen => b.opened
  | blockClose => b.closed
  | _ => b.add o

theorem run_eq_take [Packages] (ctx : Context) (clock : Calendar.Moment) (t : Token) (b : Block) :
    t.run ctx clock b = t.take b <$> t.output ctx clock := by
  cases t with
  | literal text => exact run_of_not_isMarker rfl b
  | blockOpen => simp [run, output, take]
  | blockClose => simp [run, output, take]
  | replacement e body => exact run_of_not_isMarker rfl b

theorem runAll_cons_eq [Packages] (t : Token) (ts : List Token) (b : Block) :
    runAll ctx clock (t :: ts) b =
      t.output ctx clock >>= fun o => runAll ctx clock ts (t.take b o) := by
  rw [runAll, run_eq_take, bind_map_left]

/-- A token leaves the block open as the walk has it. -/
theorem isOpen_take (t : Token) (b : Block) (o : Output) :
    (t.take b o).isOpen = t.leavesOpen b.isOpen := by
  cases t with
  | literal text => exact congrArg Option.isSome (b.marker_add o)
  | blockOpen => rfl
  | blockClose => rfl
  | replacement e body => exact congrArg Option.isSome (b.marker_add o)

/-- So does a run, by induction on the tokens. -/
theorem isOpen_of_runAll [Packages] {ts : List Token} {b c : Block} {n m : Nat}
    (h : (runAll ctx clock ts b).run n = .ok c m) :
    c.isOpen = ts.foldl leavesOpen b.isOpen := by
  induction ts generalizing b n with
  | nil =>
    cases h
    rfl
  | cons t ts ih =>
    rw [runAll_cons_eq] at h
    obtain ⟨o, k, -, hrest⟩ := Evaluation.run_bind_eq_ok_iff.1 h
    rw [ih hrest, isOpen_take, List.foldl_cons]

end Token

/-! ## Closing a block that is not open -/

namespace Block

/-- Blocks that no token tells apart. -/
structure Alike (b c : Block) : Prop where
  buffer : b.buffer = c.buffer
  marker : b.marker = c.marker
  satisfied : b.isOpen = true → b.satisfied = c.satisfied

namespace Alike

variable {b c : Block}

theorem refl (b : Block) : Alike b b := ⟨rfl, rfl, fun _ => rfl⟩

theorem buffer_settle (h : Alike b c) : b.settle.buffer = c.settle.buffer := by
  unfold settle
  rw [← h.marker]
  cases hmarker : b.marker with
  | none => exact h.buffer
  | some m =>
    simp only [← h.satisfied (by simp [isOpen, hmarker]), h.buffer]
    split
    · exact h.buffer
    · rfl

theorem add (h : Alike b c) (o : Output) : Alike (b.add o) (c.add o) where
  buffer := by rw [buffer_add, buffer_add, h.buffer]
  marker := by rw [marker_add, marker_add, h.marker]
  satisfied := by
    intro hopen
    rw [isOpen, marker_add] at hopen
    rw [satisfied_add, satisfied_add, h.satisfied hopen]

theorem opened (h : Alike b c) : Alike b.opened c.opened :=
  ⟨h.buffer_settle, by rw [Block.opened, Block.opened, h.buffer_settle], fun _ => rfl⟩

theorem closed (h : Alike b c) : Alike b.closed c.closed :=
  ⟨h.buffer_settle, rfl, fun _ => rfl⟩

theorem closed_of_not_isOpen (h : Alike b c) (hopen : b.isOpen = false) : Alike b.closed c := by
  have hmarker : b.marker = none := by simpa [isOpen] using hopen
  refine ⟨?_, ?_, fun hclosed => ?_⟩
  · rw [Block.closed, settle, hmarker]
    exact h.buffer
  · rw [← h.marker, hmarker]
    rfl
  · cases hclosed

theorem take (h : Alike b c) (t : Token) (o : Output) : Alike (t.take b o) (t.take c o) := by
  cases t with
  | literal text => exact h.add o
  | blockOpen => exact h.opened
  | blockClose => exact h.closed
  | replacement e body => exact h.add o

end Alike

end Block

namespace Token

/-- Tokens without the close markers that find no open block. -/
def dropStrayCloses : Bool → List Token → List Token
  | _, [] => []
  | isOpen, t :: ts =>
    if t = .blockClose ∧ isOpen = false then dropStrayCloses isOpen ts
    else t :: dropStrayCloses (t.leavesOpen isOpen) ts

/-- Without them a run gives the same text, and fails where it did. -/
theorem runAll_dropStrayCloses [Packages] (ctx : Context) (clock : Calendar.Moment) {b c : Block}
    (h : b.Alike c) (ts : List Token) :
    (fun b => b.finished.buffer.text) <$> runAll ctx clock ts b =
      (fun b => b.finished.buffer.text) <$>
        runAll ctx clock (dropStrayCloses b.isOpen ts) c := by
  induction ts generalizing b c with
  | nil =>
    have htext : b.finished.buffer.text = c.finished.buffer.text :=
      congrArg Buffer.text h.buffer_settle
    simp [runAll, dropStrayCloses, htext]
  | cons t ts ih =>
    rw [dropStrayCloses]
    split
    · rename_i hstray
      obtain ⟨rfl, hopen⟩ := hstray
      have hclosed := ih (h.closed_of_not_isOpen hopen)
      rw [hopen]
      exact hclosed
    · rw [runAll_cons_eq, runAll_cons_eq, map_bind, map_bind]
      refine congrArg (t.output ctx clock >>= ·) ?_
      funext o
      rw [ih (h.take t o), isOpen_take]

end Token

/-! ## The warnings of the walk -/

namespace Token

/-- A warning that only one kind of marker gives, in one state of the block, is given at such a
marker exactly in that state. No other marker begins at its offset. -/
theorem mem_warningsFrom_marker_iff (m : Token) (hm : m.source ≠ []) {p : Problem}
    {isOpen expected : Bool} {before after : List Token}
    (h : ∀ {n : Nat} {isOpen : Bool} {t : Token},
      p ∈ t.warnings n isOpen ↔ t = m ∧ isOpen = expected ∧ (sources before).length = n) :
    p ∈ warningsFrom 0 isOpen (before ++ m :: after) ↔
      before.foldl leavesOpen isOpen = expected := by
  rw [mem_warningsFrom_iff]
  constructor
  · rintro ⟨before', t, after', heq, hp⟩
    obtain ⟨rfl, hopen, hlength⟩ := h.1 hp
    rw [Nat.zero_add] at hlength
    rwa [before_eq_of_length heq hm hm hlength]
  · intro hopen
    exact ⟨before, m, after, rfl, h.2 ⟨rfl, hopen, (Nat.zero_add _).symm⟩⟩

theorem blockReopened_mem_warningsFrom_iff (isOpen : Bool) (before after : List Token) :
    .blockReopened (sources before).length ∈
        warningsFrom 0 isOpen (before ++ .blockOpen :: after) ↔
      before.foldl leavesOpen isOpen = true :=
  mem_warningsFrom_marker_iff .blockOpen (by decide) blockReopened_mem_warnings_iff

theorem closeWithoutBlock_mem_warningsFrom_iff (isOpen : Bool) (before after : List Token) :
    .closeWithoutBlock (sources before).length ∈
        warningsFrom 0 isOpen (before ++ .blockClose :: after) ↔
      before.foldl leavesOpen isOpen = false :=
  mem_warningsFrom_marker_iff .blockClose (by decide) closeWithoutBlock_mem_warnings_iff

end Token

namespace Report

/-- Whether a token at an offset is a close marker that the report warns of. -/
def isWarnedClose (r : Report) (x : Nat × Token) : Bool :=
  decide (x.2 = .blockClose) && decide (.closeWithoutBlock x.1 ∈ r.warnings)

/-- Tokens without the close markers that the report warns of. -/
def withoutWarnedCloses (r : Report) (ts : List Token) : List Token :=
  ((Token.placed 0 ts).filter (!r.isWarnedClose ·)).map Prod.snd

/-- Behind the tokens before them, by induction on the tokens that follow. -/
theorem filter_placed_eq_dropStrayCloses {r : Report} (before after : List Token)
    (h : r.warnings = Token.warningsFrom 0 false (before ++ after)) :
    ((Token.placed (sources before).length after).filter (!r.isWarnedClose ·)).map Prod.snd =
      Token.dropStrayCloses (before.foldl Token.leavesOpen false) after := by
  induction after generalizing before with
  | nil => rfl
  | cons t after ih =>
    have hnext := ih (before ++ [t]) (by simpa using h)
    simp only [Token.sources_append, Token.sources_cons, Token.sources_nil, List.append_nil,
      List.length_append, List.foldl_append, List.foldl_cons, List.foldl_nil] at hnext
    have hwarned : r.isWarnedClose ((sources before).length, t) = true ↔
        t = .blockClose ∧ before.foldl Token.leavesOpen false = false := by
      simp only [isWarnedClose, Bool.and_eq_true, decide_eq_true_eq, and_congr_right_iff]
      rintro rfl
      rw [h, Token.closeWithoutBlock_mem_warningsFrom_iff]
    rw [Token.placed, Token.dropStrayCloses]
    split
    · rename_i hstray
      rw [List.filter_cons_of_neg (by simp [hwarned.2 hstray]), hnext]
      obtain ⟨rfl, hopen⟩ := hstray
      rw [hopen]
      rfl
    · rename_i hkept
      have hnot : r.isWarnedClose ((sources before).length, t) = false := by
        simpa using mt hwarned.1 hkept
      rw [List.filter_cons_of_pos (by simp [hnot]), List.map_cons, hnext]

end Report

/-! ## Templates -/

/-- A report on a template that is scanned without a fault, on the tokens alone or on their operands
too. A run that gives a text comes to every marker; it is warned of a marker that opens a block
exactly where the run finds one open, and of one that closes a block where the run finds none. The
close markers that are warned of may be left out: what the others expand to is the same text, or the
same failure, for all parameters. -/
theorem markers_of_validate [Packages] {template : Text} (hscan : (scan template).fault = none)
    {level : ReportLevel} (hlevel : level ≠ .strict) (settings : Settings) (now : Calendar.Moment) :
    ((∃ report, validate level settings now template = .ok report) ∨
      level ≠ .permissive ∧ ∃ t ∈ (scan template).tokens, ∃ f,
        Report.causes now settings.locale t = .error f) ∧
    ∀ report, validate level settings now template = .ok report →
      ∀ (evaluated : Settings) (clock : Calendar.Moment) (parameters : List Value),
        (∀ text, expand evaluated clock template parameters = .ok text →
          ∀ before m after, (scan template).tokens = before ++ m :: after →
            ∃ block position,
              (Token.runAll (evaluated.context parameters) clock before .start).run 0 =
                .ok block position ∧
              (m = .blockOpen → (.blockReopened (sources before).length ∈ report.warnings ↔
                block.isOpen = true)) ∧
              (m = .blockClose → (.closeWithoutBlock (sources before).length ∈ report.warnings ↔
                block.isOpen = false))) ∧
        expandTokens evaluated clock (report.withoutWarnedCloses (scan template).tokens)
          parameters = expand evaluated clock template parameters := by
  refine ⟨exists_report hscan level settings now, fun report hreport => ?_⟩
  obtain ⟨w, hw, -, hwarnings, -⟩ := exists_visitAll_of_validate hlevel hreport
  have hwarned : report.warnings = Token.warningsFrom 0 false (scan template).tokens := by
    rw [hwarnings, (Report.passes_visitAll hw).warnings]
    rfl
  intro evaluated clock parameters
  constructor
  · intro text htext before m after htokens
    rw [expand_eq_outcome hscan, Evaluation.outcome_map_eq_ok_iff] at htext
    obtain ⟨_, _, hrun, -⟩ := htext
    rw [htokens, Token.runAll_append] at hrun
    obtain ⟨block, position, hbefore, -⟩ := Evaluation.run_bind_eq_ok_iff.1 hrun
    have hopen : block.isOpen = before.foldl Token.leavesOpen false :=
      Token.isOpen_of_runAll hbefore
    refine ⟨block, position, hbefore, ?_, ?_⟩
    · rintro rfl
      rw [hwarned, htokens, Token.blockReopened_mem_warningsFrom_iff, hopen]
    · rintro rfl
      rw [hwarned, htokens, Token.closeWithoutBlock_mem_warningsFrom_iff, hopen]
  · have hkept : report.withoutWarnedCloses (scan template).tokens =
        Token.dropStrayCloses false (scan template).tokens :=
      Report.filter_placed_eq_dropStrayCloses [] _ hwarned
    rw [hkept, expand_eq_outcome hscan, Token.runAll_dropStrayCloses _ _ (.refl _)]
    rfl

/-- A marker that closes nothing, and one that opens a block behind an open one. -/
theorem markers_of_validate_reopened :
    let template := "\x7b.\x7d\x7b?\x7da\x7b\x7d\x7b?\x7d\x7b.\x7d".toText
    let before := [.blockClose, .blockOpen, .literal ['a'], .replacement .plain ⟨[], .next, []⟩]
    let report : Report := {
      errors := []
      warnings := [.closeWithoutBlock 0, .blockReopened 9]
      tokens := ["\x7b.\x7d".toText, "\x7b?\x7d".toText, "\x7b\x7d".toText, "\x7b?\x7d".toText,
        "\x7b.\x7d".toText]
      length := 15
      lines := 1
      sequentialReferences := 1
      highestPosition := 0
      usesClock := false }
    let parameters := [.text ['b']]
    (scan template).fault = none ∧ validate .permissive {} ⟨0, some 0⟩ template = .ok report ∧
      expand {} ⟨0, some 0⟩ template parameters = .ok ['a', 'b'] ∧
      (scan template).tokens = before ++ [.blockOpen, .blockClose] ∧
      (∃ block position, (Token.runAll (Settings.context {} parameters) ⟨0, some 0⟩ before
          .start).run 0 = .ok block position ∧
        (.blockReopened 9 ∈ report.warnings ↔ block.isOpen = true)) ∧
      report.withoutWarnedCloses (scan template).tokens =
        before.tail ++ [.blockOpen, .blockClose] ∧
      expandTokens {} ⟨0, some 0⟩ (report.withoutWarnedCloses (scan template).tokens) parameters =
        expand {} ⟨0, some 0⟩ template parameters := by
  intro template before report parameters
  have hscan : (scan template).fault = none := by decide +kernel
  have hreport : validate .permissive {} ⟨0, some 0⟩ template = .ok report := by decide +kernel
  have htext : expand {} ⟨0, some 0⟩ template parameters = .ok ['a', 'b'] := by decide +kernel
  have htokens : (scan template).tokens = before ++ [.blockOpen, .blockClose] := by decide +kernel
  obtain ⟨hmarkers, hkept⟩ := (markers_of_validate hscan (by decide) {} _).2 report hreport {}
    ⟨0, some 0⟩ parameters
  obtain ⟨block, position, hrun, hopen, -⟩ := hmarkers _ htext _ _ _ htokens
  exact ⟨hscan, hreport, htext, htokens, ⟨block, position, hrun, hopen rfl⟩, by decide +kernel,
    hkept⟩

end BraceTemplate
