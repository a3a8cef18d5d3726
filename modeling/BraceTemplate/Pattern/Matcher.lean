import BraceTemplate.Pattern.Reader

/-!
# BraceTemplate.Pattern.Matcher

Matching a pattern in a text. Every node is run with a continuation for what follows it; a node
that can match in several ways tries them in order and takes the first with which the continuation
succeeds. Behind a place the text is read backwards and sequences are run from their last element.
-/

namespace BraceTemplate.Pattern

/-- What a group has matched: its number, the offset of its first character and the offset behind
its last one. -/
structure Capture where
  group : Nat
  start : Nat
  stop : Nat
  deriving DecidableEq, Repr

/-- A place in the text, with the captures made on the way, the latest first. -/
structure Place where
  position : Nat
  captures : List Capture
  /-- The start of the match, where the pattern has moved it. -/
  keptFrom : Option Nat

abbrev Continuation := Place → Option Place

structure Subject where
  text : Array CodePoint
  names : List (Text × Nat)
  /-- The groups whose captures the pattern looks at. -/
  watched : List GroupKey

namespace Subject

def indexOf? (s : Subject) (key : GroupKey) : Option Nat :=
  match key with
  | .number n => some n
  | .name t => (s.names.find? (·.1 = t)).map (·.2)

def captureOf? (s : Subject) (p : Place) (key : GroupKey) : Option Capture :=
  (s.indexOf? key).bind fun i => p.captures.find? (·.group = i)

/-- Whether a run from one place to another has read a character or moved a capture that the
pattern looks at. -/
def hasChanged (s : Subject) (p q : Place) : Bool :=
  q.position != p.position || s.watched.any fun key => s.captureOf? p key != s.captureOf? q key

def isWordAt (s : Subject) (ascii : Bool) (i : Nat) : Bool :=
  match s.text[i]? with
  | none => false
  | some c => if ascii then c.toNat < 128 && Text.isWord c else Property.word.holds c

def wordBefore (s : Subject) (ascii : Bool) (i : Nat) : Bool :=
  match i with
  | 0 => false
  | i + 1 => s.isWordAt ascii i

def anchorHolds (s : Subject) (ascii : Bool) (i : Nat) : Anchor → Bool
  | .textStart => i == 0
  | .searchStart => i == 0
  | .textEnd => i == s.text.size
  | .lastLineEnd => i == s.text.size || (i + 1 == s.text.size && s.text[i]? == some (.char '\n'))
  | .lineStart => i == 0 || s.text[i - 1]? == some (.char '\n')
  | .lineEnd => i == s.text.size || s.text[i]? == some (.char '\n')
  | .wordBoundary => s.wordBefore ascii i != s.isWordAt ascii i
  | .notWordBoundary => s.wordBefore ascii i == s.isWordAt ascii i
  | .wordStart => !s.wordBefore ascii i && s.isWordAt ascii i
  | .wordEnd => s.wordBefore ascii i && !s.isWordAt ascii i

/-- The character next to a place in the direction of reading. -/
def nextChar? (s : Subject) (backward : Bool) (i : Nat) : Option CodePoint :=
  if backward then
    match i with
    | 0 => none
    | i + 1 => s.text[i]?
  else s.text[i]?

def moved (backward : Bool) (i n : Nat) : Nat := if backward then i - n else i + n

/-- How many characters of a class follow each other from a place on, up to a bound. -/
def runLength (s : Subject) (backward : Bool) (accepts : CodePoint → Bool) : Nat → Nat → Nat
  | 0, _ => 0
  | bound + 1, i =>
    match s.nextChar? backward i with
    | some c => if accepts c then runLength s backward accepts bound (moved backward i 1) + 1 else 0
    | none => 0

/-- Tries a run of characters at its longest first, down to the least length. -/
def longestFirst (least : Nat) (attempt : Nat → Option Place) : Nat → Option Place
  | 0 => if least = 0 then attempt 0 else none
  | n + 1 =>
    if n + 1 < least then none
    else
      match attempt (n + 1) with
      | some p => some p
      | none => longestFirst least attempt n

/-- Tries a run of characters at its shortest first; `more` lengths are left to try. -/
def shortestFirst (attempt : Nat → Option Place) : Nat → Nat → Option Place
  | 0, n => attempt n
  | more + 1, n =>
    match attempt n with
    | some p => some p
    | none => shortestFirst attempt more (n + 1)

/-- A repeated single character: no continuation has to be kept for each of the characters. -/
def runSingle (s : Subject) (backward : Bool) (accepts : CodePoint → Bool) (least : Nat)
    (most : Option Nat) (greed : Greed) (k : Continuation) (p : Place) : Option Place :=
  let bound := match most with
    | some m => min m s.text.size
    | none => s.text.size
  let longest := s.runLength backward accepts bound p.position
  let attempt : Nat → Option Place := fun n => k { p with position := moved backward p.position n }
  if longest < least then none
  else
    match greed with
    | .greedy => longestFirst least attempt longest
    | .lazy => shortestFirst attempt (longest - least) least
    | .possessive => attempt longest

/-- Repeats a body that has been run `count` times; a run that changes nothing is the last one. -/
def runRepeated (s : Subject) (body : Continuation → Continuation) (least : Nat)
    (most : Option Nat) (isLazy : Bool) (k : Continuation) : Nat → Nat → Continuation
  | 0, _, _ => none
  | fuel + 1, count, p =>
    let again : Unit → Option Place := fun _ =>
      body (fun q =>
        if s.hasChanged p q then runRepeated s body least most isLazy k fuel (count + 1) q
        else k q) p
    if count < least then again ()
    else if most.any (· ≤ count) then k p
    else if isLazy then
      match k p with
      | some q => some q
      | none => again ()
    else
      match again () with
      | some q => some q
      | none => k p

/-- Goes on behind a text that is the same as a captured one, read in the given direction. -/
def runBackreference (s : Subject) (backward : Bool) (rule : CaseRule) (c : Capture)
    (k : Continuation) (p : Place) : Option Place :=
  let n := c.stop - c.start
  let from? : Option Nat :=
    if backward then (if n ≤ p.position then some (p.position - n) else none)
    else if p.position + n ≤ s.text.size then some p.position else none
  match from? with
  | none => none
  | some start =>
    let same := (List.range n).all fun i =>
      match s.text[c.start + i]?, s.text[start + i]? with
      | some a, some b => (rule.variants a).contains b
      | _, _ => false
    if same then k { p with position := moved backward p.position n } else none

/-- Runs a node; `call` runs a group that the pattern refers to. -/
def run (s : Subject) (call : Bool → GroupKey → Continuation → Continuation) (backward : Bool) :
    Node → Continuation → Continuation
  | .empty, k, p => k p
  | .fail, _, _ => none
  | .one set rule, k, p =>
    match s.nextChar? backward p.position with
    | some c =>
      if set.containsVariant rule c then
        k { p with position := moved backward p.position 1 }
      else none
    | none => none
  | .seq a b, k, p =>
    if backward then run s call backward b (fun q => run s call backward a k q) p
    else run s call backward a (fun q => run s call backward b k q) p
  | .alt a b, k, p =>
    match run s call backward a k p with
    | some q => some q
    | none => run s call backward b k p
  | .repeated body least most greed, k, p =>
    match body with
    | .one set rule =>
      s.runSingle backward (set.containsVariant rule) least most greed k p
    | body =>
      let once : Continuation → Continuation := fun k p => run s call backward body k p
      let fuel := (s.text.size + 2) * (s.watched.length + 1)
      match greed with
      | .greedy => s.runRepeated once least most false k fuel 0 p
      | .lazy => s.runRepeated once least most true k fuel 0 p
      | .possessive =>
        match s.runRepeated once least most false some fuel 0 p with
        | some q => k q
        | none => none
  | .group index body, k, p =>
    run s call backward body (fun q =>
      let c : Capture :=
        if backward then ⟨index, q.position, p.position⟩ else ⟨index, p.position, q.position⟩
      k { q with captures := c :: q.captures }) p
  | .backreference key rule, k, p =>
    match s.captureOf? p key with
    | some c => s.runBackreference backward rule c k p
    | none => none
  | .anchor a ascii, k, p => if s.anchorHolds ascii p.position a then k p else none
  | .look behind positive body, k, p =>
    match run s call behind body some p with
    | some q => if positive then k { q with position := p.position } else none
    | none => if positive then none else k p
  | .atomic body, k, p =>
    match run s call backward body some p with
    | some q => k q
    | none => none
  | .ifGroup key yes no, k, p =>
    if (s.captureOf? p key).isSome then run s call backward yes k p
    else run s call backward no k p
  | .ifLook behind positive condition yes no, k, p =>
    match run s call behind condition some p with
    | some q =>
      if positive then run s call backward yes k { q with position := p.position }
      else run s call backward no k p
    | none => if positive then run s call backward no k p else run s call backward yes k p
  | .call key, k, p => call backward key k p
  | .keep, k, p => k { p with keptFrom := some p.position }

/-- Runs a node with calls up to a depth; the captures of a call are forgotten behind it. -/
def runNested (s : Subject) (root : Node) : Nat → Bool → Node → Continuation → Continuation
  | 0, _, _, _, _ => none
  | depth + 1, backward, node, k, p =>
    s.run (fun backward key k p =>
      let body := match s.indexOf? key with
        | some 0 => some root
        | some i => root.findGroup? i
        | none => none
      match body with
      | some n => runNested s root depth backward n (fun q => k { q with captures := p.captures }) p
      | none => none) backward node k p

end Subject

/-- A match: the text it covers and what its groups have captured. -/
structure Match where
  text : Text
  groups : List (Nat × Text)
  deriving DecidableEq, Repr

/-- The offsets from one on at which a match may start, in order. -/
def searchFrom (attempt : Nat → Option Match) : Nat → Nat → Option Match
  | 0, start => attempt start
  | more + 1, start =>
    match attempt start with
    | some m => some m
    | none => searchFrom attempt more (start + 1)

namespace Compiled

/-- The first match in a text. -/
def search (pattern : Compiled) (text : Text) : Option Match :=
  let chars := text.toArray
  let s : Subject := ⟨chars, pattern.names, pattern.root.watched⟩
  let cut : Nat → Nat → Text := fun a b => (chars.extract a b).toList
  searchFrom (fun start =>
    let place? :=
      s.runNested pattern.root (chars.size + 64) false pattern.root some ⟨start, [], none⟩
    place?.map fun p =>
      ⟨cut (p.keptFrom.getD start) p.position,
        p.captures.map fun c => (c.group, cut c.start c.stop)⟩) chars.size 0

/-- What a group of a match has captured: the whole match for group 0, and nothing for a group
that took no part or does not exist. -/
def captured? (pattern : Compiled) (m : Match) (key : GroupKey) : Option Text :=
  let index : Option Nat := match key with
    | .number n => some n
    | .name t => (pattern.names.find? (·.1 = t)).map (·.2)
  index.bind fun i => if i = 0 then some m.text else (m.groups.find? (·.1 = i)).map (·.2)

end Compiled

def engine : Engine := ⟨Compiled, Match, compile, Compiled.search, Compiled.captured?⟩

end BraceTemplate.Pattern
