import BraceTemplate.Text.Classes
import BraceTemplate.Yaml.Source

/-!
# BraceTemplate.Yaml.Scalar

The text of scalars in each of their styles. A single line break within a flow scalar or a folded
one is a blank, and of several the first is dropped.
-/

namespace BraceTemplate.Yaml

/-- A line break and the breaks of empty lines behind it, folded. -/
def foldBreaks (first : CodePoint) (more : Text) : Text :=
  if first ≠ '\n' then first :: more else if more.isEmpty then [' '] else more

/-! ## Plain scalars -/

namespace Plain

def isFlowMark (c : CodePoint) : Bool := c = ',' || c = '[' || c = ']' || c = '{' || c = '}'

/-- Whether a run of a plain scalar ends before the first character. -/
def ends (inFlow : Bool) : Source → Bool
  | [] => true
  | p :: rest =>
    isSpacing p.char ||
      (p.char = ':' && Source.endsOr (fun c => isSpacing c || (inFlow && isFlowMark c)) rest) ||
      (inFlow && (isFlowMark p.char || p.char = '?'))

def readRun (inFlow : Bool) : Source → Text × Source
  | [] => ([], [])
  | p :: rest =>
    if ends inFlow (p :: rest) then ([], p :: rest)
    else
      let (t, rest) := readRun inFlow rest
      (p.char :: t, rest)

/-- What stands between two runs. Without text no run follows. -/
structure Gap where
  text : Text
  /-- Whether a line break has been read. -/
  broken : Bool
  rest : Source

/-- The breaks of empty lines up to a document marker, if there is one. -/
def readBreaks : Source → Text × Bool × Source
  | [] => ([], false, [])
  | p :: rest =>
    if p.char = ' ' then readBreaks rest
    else if isBreak p.char then
      if Source.startsAnyMarker rest then ([], true, rest)
      else
        let (t, stopped, rest) := readBreaks rest
        (p.char :: t, stopped, rest)
    else ([], false, p :: rest)

def readGap (s : Source) : Gap :=
  match s.dropRun (· = ' ') with
  | [] => ⟨s.takeRun (· = ' '), false, []⟩
  | p :: rest =>
    if isBreak p.char then
      if Source.startsAnyMarker rest then ⟨[], true, rest⟩
      else
        let (breaks, stopped, rest) := readBreaks rest
        if stopped then ⟨[], true, rest⟩ else ⟨foldBreaks p.char breaks, true, rest⟩
    else ⟨s.takeRun (· = ' '), false, p :: rest⟩

/-- The scalar's text from a run on, with the gap before it, and the gap that ends it. -/
def readRuns (inFlow : Bool) (indent : Nat) : Nat → Gap → Text × Gap
  | 0, g => ([], g)
  | fuel + 1, g =>
    let (run, rest) := readRun inFlow g.rest
    if g.rest.startsWith '#' || run.isEmpty then ([], g)
    else
      let next := readGap rest
      if next.text.isEmpty || next.rest.startsWith '#' ||
          (!inFlow && decide (next.rest.column < indent)) then
        (g.text ++ run, next)
      else
        let (t, last) := readRuns inFlow indent fuel next
        (g.text ++ run ++ t, last)

/-- A plain scalar's text, whether a line break stands behind it, and the rest. In a block its
further lines are indented. -/
def read (inFlow : Bool) (indent : Nat) (s : Source) : Text × Bool × Source :=
  let (t, g) := readRuns inFlow indent (s.length + 1) ⟨[], false, s⟩
  (t, g.broken, g.rest)

end Plain

/-! ## Quoted scalars -/

namespace Quoted

/-- What a letter behind a backslash stands for. -/
def escaped? : CodePoint → Option CodePoint
  | '0' => some '\x00'
  | 'a' => some '\x07'
  | 'b' => some '\x08'
  | 't' => some '\t'
  | '\t' => some '\t'
  | 'n' => some '\n'
  | 'v' => some '\x0b'
  | 'f' => some '\x0c'
  | 'r' => some '\r'
  | 'e' => some '\x1b'
  | ' ' => some ' '
  | '"' => some '"'
  | '\\' => some '\\'
  | '/' => some '/'
  | 'N' => some '\x85'
  | '_' => some '\xa0'
  | 'L' => some '\u2028'
  | 'P' => some '\u2029'
  | _ => none

/-- The number of hexadecimal digits behind a letter. -/
def hexLength? : CodePoint → Option Nat
  | 'x' => some 2
  | 'u' => some 4
  | 'U' => some 8
  | _ => none

/-- The number that hexadecimal digits denote. -/
def hexNumber? (t : Text) : Option Nat :=
  t.foldl (fun n c => match n, Text.hexValue? c with
    | some n, some d => some (16 * n + d)
    | _, _ => none) (some 0)

/-- The code point with a number. -/
def codePointOf (code : Nat) : Except Error CodePoint :=
  if code < 0x110000 then .ok (CodePoint.ofNat code)
  else if code < 0x80000000 then .error (.fault .malformedScalar)
  else .error (.fault .codeTooLarge)

/-- The breaks of empty lines; none at a document marker. -/
def readBreaks? (atLineStart : Bool) : Source → Option (Text × Source)
  | [] => some ([], [])
  | p :: rest =>
    if atLineStart && Source.startsAnyMarker (p :: rest) then none
    else if isSpaceOrTab p.char then readBreaks? false rest
    else if isBreak p.char then
      match readBreaks? true rest with
      | some (t, rest) => some (p.char :: t, rest)
      | none => none
    else some ([], p :: rest)

/-- A character behind a backslash, or a line break with the empty lines behind it. -/
def readEscape : Source → Except Error (Text × Source)
  | [] => .error .malformed
  | p :: rest =>
    match escaped? p.char, hexLength? p.char with
    | some c, _ => .ok ([c], rest)
    | none, some n =>
      match hexNumber? (Source.first n rest) with
      | none => .error .malformed
      | some code =>
        if rest.length < n then .error .malformed
        else
          match codePointOf code with
          | .error e => .error e
          | .ok c => .ok ([c], rest.drop n)
    | none, none =>
      if isBreak p.char then
        match readBreaks? true rest with
        | some r => .ok r
        | none => .error .malformed
      else .error .malformed

/-- Blanks within a quoted scalar: kept within a line, folded around a line break. -/
def readSpacing? (s : Source) : Option (Text × Source) :=
  match s.dropRun isSpaceOrTab with
  | [] => none
  | p :: rest =>
    if isBreak p.char then
      match readBreaks? true rest with
      | some (breaks, rest) => some (foldBreaks p.char breaks, rest)
      | none => none
    else some (s.takeRun isSpaceOrTab, p :: rest)

/-- One piece of a quoted scalar's text; none at the closing quote. -/
def readPiece (double : Bool) : Source → Except Error (Option Text × Source)
  | [] => .error .malformed
  | p :: rest =>
    if p.char = (if double then '"' else '\'') then
      if !double && Source.startsWith '\'' rest then .ok (some ['\''], rest.drop 1)
      else .ok (none, rest)
    else if isSpacing p.char then
      match readSpacing? (p :: rest) with
      | some (t, rest) => .ok (some t, rest)
      | none => .error .malformed
    else if double && p.char = '\\' then
      match readEscape rest with
      | .ok (t, rest) => .ok (some t, rest)
      | .error e => .error e
    else .ok (some [p.char], rest)

def readPieces (double : Bool) : Nat → Source → Except Error (Text × Source)
  | 0, _ => .error .malformed
  | fuel + 1, s =>
    match readPiece double s with
    | .error e => .error e
    | .ok (none, rest) => .ok ([], rest)
    | .ok (some t, rest) =>
      match readPieces double fuel rest with
      | .error e => .error e
      | .ok (u, rest) => .ok (t ++ u, rest)

/-- A quoted scalar's text behind its opening quote, and the rest. -/
def read (double : Bool) (s : Source) : Except Error (Text × Source) :=
  readPieces double (s.length + 1) s

end Quoted

/-! ## Block scalars -/

namespace BlockScalar

/-- What is done with the line breaks at the end: by default the first is kept. -/
inductive Chomping where
  | strip
  | clip
  | keep
  deriving DecidableEq, Repr

structure Header where
  chomping : Chomping
  indent : Option Nat
  deriving DecidableEq, Repr

def chomping? : CodePoint → Option Chomping
  | '+' => some .keep
  | '-' => some .strip
  | _ => none

def indent? (c : CodePoint) : Option Nat :=
  if '1' ≤ c ∧ c ≤ '9' then some (c.toNat - 48) else none

/-- The indicators of a header in either order, and the rest. -/
def readHeader (s : Source) : Header × Source :=
  match s with
  | [] => (⟨.clip, none⟩, [])
  | p :: rest =>
    match chomping? p.char, indent? p.char with
    | some c, _ =>
      match rest.head?.bind fun q => indent? q.char with
      | some n => (⟨c, some n⟩, rest.drop 1)
      | none => (⟨c, none⟩, rest)
    | none, some n =>
      match rest.head?.bind fun q => chomping? q.char with
      | some c => (⟨c, some n⟩, rest.drop 1)
      | none => (⟨.clip, some n⟩, rest)
    | none, none => (⟨.clip, none⟩, s)

/-- Blanks up to an indentation and empty lines, as their breaks. -/
def readBreaks (indent : Nat) : Source → Text × Source
  | [] => ([], [])
  | p :: rest =>
    if p.char = ' ' ∧ p.column < indent then readBreaks indent rest
    else if isBreak p.char then
      let (t, rest) := readBreaks indent rest
      (p.char :: t, rest)
    else ([], p :: rest)

/-- The widest indentation of leading empty lines and the first other line. -/
def widest : Source → Nat
  | [] => 0
  | p :: rest =>
    if p.char = ' ' then max (p.column + 1) (widest rest)
    else if isBreak p.char then widest rest
    else 0

structure Body where
  text : Text
  /-- The break that ends the last line. -/
  lastBreak : Text
  /-- The breaks of the empty lines behind it. -/
  trailing : Text
  rest : Source

/-- Whether a line of the scalar begins here. -/
def continues (indent : Nat) (s : Source) : Bool := s.head?.any fun p => p.column = indent

def readLines (folded : Bool) (indent : Nat) : Nat → Source → Body
  | 0, s => ⟨[], [], [], s⟩
  | fuel + 1, s =>
    let line := s.takeRun fun c => !isBreak c
    let after := s.dropRun fun c => !isBreak c
    let lastBreak := after.first 1
    let (breaks, rest) := readBreaks indent (after.behind 1)
    if continues indent rest then
      let joint :=
        if folded && lastBreak = [.char '\n'] && !s.starts isSpaceOrTab &&
            !rest.starts isSpaceOrTab then
          (if breaks.isEmpty then [.char ' '] else [])
        else lastBreak
      let more := readLines folded indent fuel rest
      { more with text := line ++ joint ++ breaks ++ more.text }
    else ⟨line, lastBreak, breaks, rest⟩

/-- A block scalar's text behind its indicator, and the rest. It is indented by at least
`least`. -/
def read (folded : Bool) (least : Nat) (s : Source) : Except Error (Text × Source) :=
  let (header, rest) := readHeader s
  if !rest.endsOr isSpaceOrBreak then .error .malformed
  else
    let rest := rest.dropRun (· = ' ')
    let rest := if rest.startsWith '#' then rest.dropRun fun c => !isBreak c else rest
    if !rest.endsOr isBreak then .error .malformed
    else
      let start := rest.behind 1
      let indent := match header.indent with
        | some n => least + n - 1
        | none => max least (widest start)
      let (breaks, first) := match header.indent with
        | some _ => readBreaks indent start
        | none => (start.takeRun isSpaceOrBreak |>.filter isBreak, start.dropRun isSpaceOrBreak)
      let body : Body :=
        if continues indent first then readLines folded indent (first.length + 1) first
        else ⟨[], [], breaks, first⟩
      let leading := if continues indent first then breaks else []
      .ok (leading ++ body.text ++
        (match header.chomping with
          | .strip => []
          | .clip => body.lastBreak
          | .keep => body.lastBreak ++ body.trailing), body.rest)

end BlockScalar

end BraceTemplate.Yaml
