import BraceTemplate.Codec.Utf8
import BraceTemplate.Number.Integer
import BraceTemplate.Yaml.Scalar

/-!
# BraceTemplate.Yaml.Token

The tokens of a YAML text. Blocks that only indentation shows get opening and closing tokens of
their own. What stands before a colon on one line is a key: it is known as one when the colon is
read, and the tokens that open a mapping and mark the key are put in before it then.
-/

namespace BraceTemplate.Yaml

/-- A tag as it is written: a handle for the tag's beginning, if there is one, and the rest. -/
structure WrittenTag where
  handle : Option Text
  suffix : Text
  deriving DecidableEq, Repr

inductive Token where
  | versionDirective (major : Nat)
  | tagDirective (handle start : Text)
  | otherDirective
  | documentStart
  | documentEnd
  | blockSequenceStart
  | blockMappingStart
  | blockEnd
  | flowSequenceStart
  | flowSequenceEnd
  | flowMappingStart
  | flowMappingEnd
  | blockEntry
  | flowEntry
  | key
  | value
  | aliasOf (name : Text)
  | anchor (name : Text)
  | tag (tag : WrittenTag)
  | scalar (text : Text) (plain : Bool)
  deriving DecidableEq, Repr

/-! ## Names, tags and directives -/

namespace Token

def isNameChar (c : CodePoint) : Bool :=
  Text.isAsciiLetter c || Text.isAsciiDigit c || c = '-' || c = '_'

/-- Characters of a tag, escapes included. -/
def isTagChar (c : CodePoint) : Bool :=
  Text.isAsciiLetter c || Text.isAsciiDigit c ||
    ";/?:@&=+$,_.!~*'()[]%-".toText.contains c

/-- Characters that may follow the name of an anchor. -/
def endsAnchor (c : CodePoint) : Bool :=
  isSpacing c || "?:,]\x7d%@\x60".toText.contains c

/-- The name behind an anchor's or an alias's mark. -/
def readAnchor (s : Source) : Except Error (Text × Source) :=
  let name := s.takeRun isNameChar
  let rest := s.dropRun isNameChar
  if name.isEmpty || !rest.endsOr endsAnchor then .error .malformed else .ok (name, rest)

/-- Octets of escapes of two hexadecimal digits behind a percent sign each. -/
def readEscapes? : Nat → Source → Option (List Nat × Source)
  | 0, s => some ([], s)
  | fuel + 1, s =>
    match s with
    | p :: a :: b :: rest =>
      if p.char = '%' then
        match Text.hexValue? a.char, Text.hexValue? b.char with
        | some x, some y =>
          match readEscapes? fuel rest with
          | some (bytes, rest) => some ((16 * x + y) :: bytes, rest)
          | none => none
        | _, _ => none
      else some ([], s)
    | p :: _ => if p.char = '%' then none else some ([], s)
    | [] => some ([], [])

/-- The characters of a tag, in which a run of escapes is UTF-8. -/
def readTagText? : Nat → Source → Option (Text × Source)
  | 0, _ => none
  | fuel + 1, s =>
    match s with
    | [] => some ([], [])
    | p :: rest =>
      if p.char = '%' then
        match readEscapes? (s.length + 1) s with
        | none => none
        | some (bytes, rest) =>
          match Codec.Utf8.decode? bytes, readTagText? fuel rest with
          | some t, some (u, rest) => some (t ++ u, rest)
          | _, _ => none
      else if isTagChar p.char then
        match readTagText? fuel rest with
        | some (u, rest) => some (p.char :: u, rest)
        | none => none
      else some ([], s)

/-- The characters of a tag, at least one. -/
def readTagUri (s : Source) : Except Error (Text × Source) :=
  match readTagText? (s.length + 1) s with
  | some (c :: t, rest) => .ok (c :: t, rest)
  | _ => .error .malformed

/-- A handle: a mark, and if the mark is not alone a name and a second mark. -/
def readHandle (s : Source) : Except Error (Text × Source) :=
  if !s.startsWith '!' then .error .malformed
  else
    let rest := s.behind 1
    if rest.startsWith ' ' then .ok (['!'], rest)
    else
      let behind := rest.dropRun isNameChar
      if behind.startsWith '!' then
        .ok (.char '!' :: rest.takeRun isNameChar ++ [.char '!'], behind.behind 1)
      else .error .malformed

/-- Whether a second mark stands in the word behind the first. -/
def hasSecondMark (s : Source) : Bool :=
  (s.takeRun fun c => !isSpaceOrBreak c).contains '!'

/-- A tag without the check of what follows it. -/
def readTagParts (s : Source) : Except Error (WrittenTag × Source) :=
  let rest := s.behind 1
  if rest.startsWith '<' then do
    let (suffix, rest) ← readTagUri (rest.behind 1)
    if rest.startsWith '>' then .ok (⟨none, suffix⟩, rest.behind 1) else .error .malformed
  else if rest.endsOr isSpacing then .ok (⟨none, ['!']⟩, rest)
  else do
    let (handle, rest) ← if hasSecondMark rest then readHandle s else .ok (['!'], rest)
    let (suffix, rest) ← readTagUri rest
    .ok (⟨some handle, suffix⟩, rest)

/-- A tag with its mark. -/
def readTag (s : Source) : Except Error (WrittenTag × Source) := do
  let (written, rest) ← readTagParts s
  if rest.endsOr isSpaceOrBreak then .ok (written, rest) else .error .malformed

/-- Digits of a version, and what follows them. -/
def readVersionNumber (s : Source) : Except Error (Nat × Source) :=
  let digits := s.takeRun Text.isAsciiDigit
  if digits.isEmpty then .error .malformed
  else
    match Number.readDigits digits with
    | .error f => .error (.fault f)
    | .ok n => .ok (n, s.dropRun Text.isAsciiDigit)

/-- A directive's content behind its name. -/
def readDirectiveContent (name : Text) (s : Source) : Except Error (Token × Source) := do
  let blanksDropped := s.dropRun (· = ' ')
  if name = "YAML".toText then do
    let (major, rest) ← readVersionNumber blanksDropped
    if !rest.startsWith '.' then .error .malformed
    else do
      let (_, rest) ← readVersionNumber (rest.behind 1)
      if rest.endsOr isSpaceOrBreak then .ok (versionDirective major, rest) else .error .malformed
  else if name = "TAG".toText then do
    let (handle, rest) ← readHandle blanksDropped
    if !rest.startsWith ' ' then .error .malformed
    else do
      let (start, rest) ← readTagUri (rest.dropRun (· = ' '))
      if rest.endsOr isSpaceOrBreak then .ok (tagDirective handle start, rest)
      else .error .malformed
  else .ok (otherDirective, s.dropRun fun c => !isBreak c)

/-- Blanks and a comment up to the end of the line. -/
def dropComment (s : Source) : Source :=
  let rest := s.dropRun (· = ' ')
  if rest.startsWith '#' then rest.dropRun fun c => !isBreak c else rest

/-- A directive behind its mark. -/
def readDirective (s : Source) : Except Error (Token × Source) := do
  let name := s.takeRun isNameChar
  let rest := s.dropRun isNameChar
  if name.isEmpty || !rest.endsOr isSpaceOrBreak then .error .malformed
  else do
    let (token, rest) ← readDirectiveContent name rest
    let rest := dropComment rest
    if rest.endsOr isBreak then .ok (token, rest.behind 1) else .error .malformed

end Token

/-! ## The state between two tokens -/

/-- A place where a key may have begun. -/
structure PossibleKey where
  /-- Tokens before it. -/
  position : Nat
  /-- Whether only a key can stand there. -/
  required : Bool
  place : Placed
  deriving DecidableEq, Repr

structure Tokens where
  done : Array Token
  /-- Columns of the open blocks, the innermost first. -/
  indents : List Nat
  /-- The key that may have begun outside of brackets, or within the innermost ones. -/
  possible : Option PossibleKey
  /-- The same for each pair of brackets further out; their number is that of open brackets. -/
  outer : List (Option PossibleKey)
  /-- Whether a key may begin here. -/
  allowed : Bool

namespace Tokens

def start : Tokens := ⟨#[], [], none, [], true⟩

def inFlow (ts : Tokens) : Bool := !ts.outer.isEmpty

/-- The least indentation of what stands within the innermost block. -/
def innerIndent (ts : Tokens) : Nat :=
  match ts.indents with
  | [] => 0
  | column :: _ => column + 1

/-- A key that cannot be one any more, because its line has ended or it is too long. -/
def isStale (p : Placed) (k : PossibleKey) : Bool :=
  k.place.line ≠ p.line || decide (k.place.index + 1024 < p.index)

/-- A possible key, or nothing if it is none any more. -/
def refreshKey (p : Placed) : Option PossibleKey → Except Error (Option PossibleKey)
  | none => .ok none
  | some k =>
    if isStale p k then (if k.required then .error .malformed else .ok none) else .ok (some k)

def refreshKeys (p : Placed) : List (Option PossibleKey) →
    Except Error (List (Option PossibleKey))
  | [] => .ok []
  | k :: ks => do
    let k ← refreshKey p k
    let ks ← refreshKeys p ks
    .ok (k :: ks)

def refresh (ts : Tokens) (p : Placed) : Except Error Tokens := do
  let possible ← refreshKey p ts.possible
  let outer ← refreshKeys p ts.outer
  .ok { ts with possible := possible, outer := outer }

/-- Gives up the possible key. -/
def forgetKey (ts : Tokens) : Except Error Tokens :=
  if ts.possible.any (·.required) then .error .malformed else .ok { ts with possible := none }

/-- Notes that a key may begin here. -/
def noteKey (ts : Tokens) (p : Placed) : Except Error Tokens :=
  if ts.allowed then do
    let ts ← ts.forgetKey
    let required := !ts.inFlow && decide (ts.indents.head? = some p.column)
    .ok { ts with possible := some ⟨ts.done.size, required, p⟩ }
  else .ok ts

def closeBlocks (done : Array Token) (column : Nat) : List Nat → Array Token × List Nat
  | [] => (done, [])
  | c :: cs => if column < c then closeBlocks (done.push .blockEnd) column cs else (done, c :: cs)

/-- Closes the blocks that are indented more than a column. -/
def closeBeyond (ts : Tokens) (column : Nat) : Tokens :=
  if ts.inFlow then ts
  else
    let (done, indents) := closeBlocks ts.done column ts.indents
    { ts with done := done, indents := indents }

/-- Closes all blocks. -/
def closeAll (ts : Tokens) : Tokens :=
  if ts.inFlow then ts
  else { ts with done := ts.done ++ Array.replicate ts.indents.length .blockEnd, indents := [] }

/-- Opens a block if the column is beyond the innermost one; the opening token goes to a
position. -/
def openBlock (ts : Tokens) (column : Nat) (t : Token) (position : Nat) : Tokens :=
  if ts.innerIndent ≤ column then
    { ts with done := ts.done.insertIdxIfInBounds position t, indents := column :: ts.indents }
  else ts

/-- A sign of a block, which opens the block if it is the first. Within brackets it opens none. -/
def blockSign (ts : Tokens) (column : Nat) (opening sign : Token) (allowed : Bool) :
    Except Error Tokens :=
  if !ts.inFlow && !ts.allowed then .error .malformed
  else do
    let ts := if ts.inFlow then ts else ts.openBlock column opening ts.done.size
    let ts ← ts.forgetKey
    .ok { ts with done := ts.done.push sign, allowed := allowed }

/-- The colon behind a key. If a key was possible, it is one. -/
def valueSign (ts : Tokens) (column : Nat) : Except Error Tokens :=
  match ts.possible with
  | some k =>
    let ts := { ts with done := ts.done.insertIdxIfInBounds k.position .key }
    let ts := if ts.inFlow then ts else ts.openBlock k.place.column .blockMappingStart k.position
    .ok { ts with done := ts.done.push .value, possible := none, allowed := false }
  | none => ts.blockSign column .blockMappingStart .value (!ts.inFlow)

def openFlow (ts : Tokens) (p : Placed) (t : Token) : Except Error Tokens := do
  let ts ← ts.noteKey p
  .ok { ts with
    done := ts.done.push t, possible := none, outer := ts.possible :: ts.outer, allowed := true }

def closeFlow (ts : Tokens) (t : Token) : Except Error Tokens := do
  let ts ← ts.forgetKey
  match ts.outer with
  | [] => .error .malformed
  | k :: ks => .ok { ts with done := ts.done.push t, possible := k, outer := ks, allowed := false }

/-- A token between two documents. -/
def betweenDocuments (ts : Tokens) (t : Token) : Except Error Tokens := do
  let ts ← ts.closeAll.forgetKey
  .ok { ts with done := ts.done.push t, allowed := false }

/-- A token with which a key may begin. -/
def keyToken (ts : Tokens) (t : Token) : Tokens :=
  { ts with done := ts.done.push t, allowed := false }

end Tokens

/-! ## Reading -/

namespace Token

/-- Blanks, comments and empty lines. Outside of brackets a key may begin on a new line. -/
def skip (ts : Tokens) : Bool → Source → Tokens × Source
  | _, [] => (ts, [])
  | inComment, p :: rest =>
    if isBreak p.char then
      skip (if ts.inFlow then ts else { ts with allowed := true }) false rest
    else if inComment || p.char = '#' then skip ts true rest
    else if p.char = ' ' then skip ts false rest
    else (ts, p :: rest)

/-- Whether a plain scalar begins with the first character. -/
def startsPlain (inFlow : Bool) : Source → Bool
  | [] => false
  | p :: rest =>
    if isSpacing p.char then false
    else if p.char = '-' then !Source.endsOr isSpacing rest
    else if p.char = '?' ∨ p.char = ':' then !inFlow && !Source.endsOr isSpacing rest
    else
      !",[]\x7b\x7d#&*!|>'\"%@\x60".toText.contains p.char

/-- Whether a mark of a key or a value stands alone; within brackets it always does. -/
def isSign (ts : Tokens) (rest : Source) : Bool := ts.inFlow || rest.endsOr isSpacing

/-- Reads the token that begins with a character. -/
def read (ts : Tokens) (p : Placed) (rest : Source) : Except Error (Tokens × Source) := do
  let c := p.char
  let s : Source := p :: rest
  if p.column = 0 ∧ c = '%' then do
    let (t, rest) ← readDirective rest
    let ts ← ts.betweenDocuments t
    .ok (ts, rest)
  else if p.column = 0 ∧ s.startsMarker '-' then
    return (← ts.betweenDocuments documentStart, s.behind 3)
  else if p.column = 0 ∧ s.startsMarker '.' then
    return (← ts.betweenDocuments documentEnd, s.behind 3)
  else if c = '[' then return (← ts.openFlow p flowSequenceStart, rest)
  else if c = '\x7b' then return (← ts.openFlow p flowMappingStart, rest)
  else if c = ']' then return (← ts.closeFlow flowSequenceEnd, rest)
  else if c = '\x7d' then return (← ts.closeFlow flowMappingEnd, rest)
  else if c = ',' then do
    let ts ← ts.forgetKey
    .ok ({ ts with done := ts.done.push flowEntry, allowed := true }, rest)
  else if c = '-' ∧ rest.endsOr isSpacing then
    return (← ts.blockSign p.column blockSequenceStart blockEntry true, rest)
  else if c = '?' ∧ isSign ts rest then
    return (← ts.blockSign p.column blockMappingStart key (!ts.inFlow), rest)
  else if c = ':' ∧ isSign ts rest then return (← ts.valueSign p.column, rest)
  else if c = '*' ∨ c = '&' then do
    let ts ← ts.noteKey p
    let (name, rest) ← readAnchor rest
    .ok (ts.keyToken (if c = '*' then aliasOf name else anchor name), rest)
  else if c = '!' then do
    let ts ← ts.noteKey p
    let (t, rest) ← readTag s
    .ok (ts.keyToken (tag t), rest)
  else if (c = '|' ∨ c = '>') ∧ !ts.inFlow then do
    let ts ← ts.forgetKey
    let (t, rest) ← BlockScalar.read (c = '>') (max 1 ts.innerIndent) rest
    .ok ({ ts with done := ts.done.push (scalar t false), allowed := true }, rest)
  else if c = '\'' ∨ c = '"' then do
    let ts ← ts.noteKey p
    let (t, rest) ← Quoted.read (c = '"') rest
    .ok (ts.keyToken (scalar t false), rest)
  else if startsPlain ts.inFlow s then do
    let ts ← ts.noteKey p
    let (t, broken, rest) := Plain.read ts.inFlow ts.innerIndent s
    .ok ({ ts with done := ts.done.push (scalar t true), allowed := broken }, rest)
  else .error .malformed

/-- Reads tokens up to the end. -/
def readAll : Nat → Tokens → Source → Except Error Tokens
  | 0, _, _ => .error .malformed
  | fuel + 1, ts, s =>
    match skip ts false s with
    | (ts, []) => ts.closeAll.forgetKey
    | (ts, p :: rest) => do
      let ts ← ts.refresh p
      let (ts, rest) ← read (ts.closeBeyond p.column) p rest
      readAll fuel ts rest

end Token

/-- The tokens of a text. -/
def tokens (t : Text) : Except Error (List Token) :=
  if t.all isAllowed then
    match Token.readAll (t.length + 1) .start (.ofText t) with
    | .ok ts => .ok ts.done.toList
    | .error e => .error e
  else .error .malformed

end BraceTemplate.Yaml
