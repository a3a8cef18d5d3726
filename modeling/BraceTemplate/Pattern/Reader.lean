import BraceTemplate.Number.Integer
import BraceTemplate.Pattern.Engine

/-!
# BraceTemplate.Pattern.Reader

Reading a pattern. The reader moves through the pattern once; a flag for the whole pattern found on
the way makes it begin again with that flag set. What cannot be read ends with a reason and a
position.
-/

namespace BraceTemplate.Pattern

structure Flags where
  ignoreCase : Bool := false
  multiLine : Bool := false
  dotAll : Bool := false
  verbose : Bool := false
  ascii : Bool := false
  unicode : Bool := false
  deriving DecidableEq, Repr

def Flags.caseRule (f : Flags) : CaseRule :=
  if !f.ignoreCase then .exact else if f.ascii then .anyAscii else .any

/-- Why reading stops before the end. -/
inductive Halt where
  | error (reason : Text) (position : Nat)
  /-- A flag for the whole pattern was turned on. -/
  | restart (flags : Flags)

structure ReaderState where
  rest : Text
  position : Nat
  flags : Flags
  wholeFlags : Flags
  groupCount : Nat
  names : List (Text × Nat)
  openGroups : List Nat
  /-- Groups that are referred to and where, last first. -/
  references : List (GroupKey × Nat × Bool)

abbrev Reading := EStateM Halt ReaderState

namespace Reading

def fail {α : Type} (reason : Text) (position : Nat) : Reading α := throw (.error reason position)

def position : Reading Nat := do pure (← get).position

def failHere {α : Type} (reason : String) : Reading α := do fail reason.toText (← position)

def badEscape {α : Type} (c : CodePoint) : Reading α := do
  fail ("bad escape \\".toText ++ [c]) (← position)

/-- How many characters of blanks and comments come first; a comment ends with its line. -/
def ignoredFrom (inComment : Bool) : Text → Nat
  | [] => 0
  | c :: t =>
    if inComment then ignoredFrom (c ≠ '\n') t + 1
    else if Text.isBlank c then ignoredFrom false t + 1
    else if c = '#' then ignoredFrom true t + 1
    else 0

/-- Blanks and comments of the verbose form before the next character. -/
def ignoredLength (t : Text) : Nat := ignoredFrom false t

def drop (n : Nat) : Reading Unit :=
  modify fun s => { s with rest := s.rest.drop n, position := s.position + n }

def skipIgnored : Reading Unit := do
  let s ← get
  if s.flags.verbose then drop (ignoredLength s.rest)

/-- The next character as it stands. -/
def rawChar? : Reading (Option CodePoint) := do
  match (← get).rest with
  | [] => pure none
  | c :: _ => drop 1; pure (some c)

/-- The next character that counts. -/
def char? : Reading (Option CodePoint) := do skipIgnored; rawChar?

/-- Takes a word, if it is next. -/
def accept (w : Text) : Reading Bool := do
  let saved ← get
  let rec go : Text → Reading Bool
    | [] => pure true
    | c :: cs => do
      skipIgnored
      match (← get).rest with
      | d :: _ => if c = d then do drop 1; go cs else do set saved; pure false
      | [] => do set saved; pure false
  go w

def expect (w : Text) (reason : String) : Reading Unit := do
  if !(← accept w) then failHere reason

/-- The longest run of characters of a class that is next. -/
def takeWhile (p : CodePoint → Bool) : Reading Text := do
  let rec go : Nat → Text → Reading Text
    | 0, out => pure out.reverse
    | fuel + 1, out => do
      skipIgnored
      match (← get).rest with
      | c :: _ => if p c then do drop 1; go fuel (c :: out) else pure out.reverse
      | [] => pure out.reverse
  go ((← get).rest.length + 1) []

end Reading

open Reading

def isNameStart (c : CodePoint) : Bool := Text.isWord c && !Text.isDecimal c

/-- A group name up to its closing mark; a number only where it may stand for a name. -/
def readName (allowNumber allowZero : Bool) : Reading Text := do
  let name ← takeWhile fun c => c ≠ ')' && c ≠ '>'
  if name.isEmpty then failHere "missing group name"
  else if name.all Text.isDecimal then
    if !allowNumber || (!allowZero && Number.digitsValue name == 0) then
      failHere "bad character in group name"
    else pure name
  else
    match name with
    | c :: cs =>
      if isNameStart c && cs.all Text.isWord then pure name
      else failHere "bad character in group name"
    | [] => pure name

def keyOfName (name : Text) : GroupKey :=
  if name.all Text.isDecimal then .number (Number.digitsValue name) else .name name

/-- Opens the group with a name, or the next group. -/
def openGroup (name : Option Text) : Reading Nat := do
  let s ← get
  let known := name.bind fun n => (s.names.find? (·.1 = n)).map (·.2)
  match known with
  | some index => do
    set { s with openGroups := index :: s.openGroups }
    pure index
  | none => do
    let taken : Nat → Bool := fun i => name.isSome && s.names.any (·.2 == i)
    let candidates := (List.range (s.names.length + 1)).map (s.groupCount + 1 + ·)
    let index := (candidates.find? fun i => !taken i).getD (s.groupCount + 1)
    let names := match name with
      | some n => (n, index) :: s.names
      | none => s.names
    set { s with groupCount := index, names := names, openGroups := index :: s.openGroups }
    pure index

def closeGroup : Reading Unit := modify fun s => { s with openGroups := s.openGroups.drop 1 }

def refer (key : GroupKey) (position : Nat) (allowZero : Bool) : Reading Unit :=
  modify fun s => { s with references := (key, position, allowZero) :: s.references }

def isOpen (key : GroupKey) : Reading Bool := do
  let s ← get
  match key with
  | .number n => pure (s.openGroups.contains n)
  | .name t =>
    match s.names.find? (·.1 = t) with
    | some e => pure (s.openGroups.contains e.2)
    | none => pure false

def backreferenceTo (key : GroupKey) (position : Nat) : Reading Node := do
  refer key position false
  pure (.backreference key (← get).flags.caseRule)

def isOctal (c : CodePoint) : Bool := decide ('0' ≤ c) && decide (c ≤ '7')

/-- A fixed count of hexadecimal digits behind an escape letter. -/
def readHexEscape (letter : CodePoint) (count : Nat) : Reading CodePoint := do
  let start ← position
  let rec go : Nat → Nat → Text → Reading (Nat × Text)
    | 0, n, seen => pure (n, seen)
    | k + 1, n, seen => do
      match ← char? with
      | none => incomplete seen start
      | some c =>
        match Text.hexValue? c with
        | some d => go k (16 * n + d) (seen ++ [c])
        | none => incomplete seen start
  let (n, seen) ← go count 0 []
  if n < 0x110000 then pure (CodePoint.ofNat n)
  else fail ("bad hex escape \\".toText ++ letter :: seen) start
where
  incomplete (seen : Text) (start : Nat) : Reading (Nat × Text) :=
    fail ("incomplete escape \\".toText ++ letter :: seen) start

/-- A property name, with the name of its family if it has one. -/
def readPropertyName : Reading (Option Text × Text) := do
  let part : CodePoint → Bool := fun c =>
    Text.isAsciiDigit c || Text.isAsciiLetter c || " &_-.".toText.contains c
  let name ← takeWhile part
  let saved ← get
  match ← char? with
  | some c =>
    if c = ':' ∨ c = '=' then do
      let value ← takeWhile fun c => part c || c = '/'
      if (value.filter (· ≠ .char ' ')).isEmpty then do
        set saved
        pure (none, name)
      else pure (some name, value)
    else do
      set saved
      pure (none, name)
  | none => do
    set saved
    pure (none, name)

def lookUpProperty (family : Option Text) (name : Text) (positive : Bool) : Reading CharSet := do
  let found := match family with
    | some f => Property.ofQualifiedName? (Property.standardName f) (Property.standardName name)
    | none => Property.ofName? (Property.standardName name)
  match found with
  | some p => pure (if positive then .property p else .complement (.property p))
  | none => failHere "unknown property"

/-- The set behind a property escape; without braces or a category letter the escape is its own
letter. -/
def readProperty (positive : Bool) : Reading CharSet := do
  let saved ← get
  let literal : Reading CharSet := do
    set saved
    pure (.char (if positive then 'p' else 'P'))
  match ← char? with
  | some '{' => do
    let negate ← accept ['^']
    let (family, name) ← readPropertyName
    if ← accept ['}'] then lookUpProperty family name (positive != negate) else literal
  | some c =>
    if "CLMNPSZ".toText.contains c then lookUpProperty none [c] positive
    else literal
  | none => literal

/-- The class that an escape letter stands for. -/
def escapeClass? (flags : Flags) (c : CodePoint) : Option CharSet :=
  let digit : CharSet := if flags.ascii then .range '0' '9' else .property (.category [8])
  let space : CharSet :=
    if flags.ascii then .union [.range '\t' '\r', .char ' '] else .property .space
  let word : CharSet :=
    if flags.ascii then .union [.range '0' '9', .range 'A' 'Z', .char '_', .range 'a' 'z']
    else .property .word
  match c with
  | 'd' => some digit
  | 'D' => some (.complement digit)
  | 's' => some space
  | 'S' => some (.complement space)
  | 'w' => some word
  | 'W' => some (.complement word)
  | 'h' => some (.property .blank)
  | _ => none

def escapeAnchor? (c : CodePoint) : Option Anchor :=
  match c with
  | 'A' => some .textStart
  | 'b' => some .wordBoundary
  | 'B' => some .notWordBoundary
  | 'm' => some .wordStart
  | 'M' => some .wordEnd
  | 'Z' => some .textEnd
  | 'G' => some .searchStart
  | _ => none

def escapeChar? (c : CodePoint) : Option CodePoint :=
  match c with
  | 'a' => some (CodePoint.ofNat 7)
  | 'b' => some (CodePoint.ofNat 8)
  | 'f' => some (CodePoint.ofNat 12)
  | 'n' => some '\n'
  | 'r' => some '\r'
  | 't' => some '\t'
  | 'v' => some (CodePoint.ofNat 11)
  | _ => none

/-- Up to three octal digits, of which the first is known. -/
def readOctal (first : CodePoint) : Reading CodePoint := do
  let rec go : Nat → Text → Reading Text
    | 0, digits => pure digits
    | k + 1, digits => do
      let saved ← get
      match ← char? with
      | some c => if isOctal c then go k (digits ++ [c]) else do set saved; pure digits
      | none => do set saved; pure digits
  let digits ← go 2 [first]
  if digits.all isOctal then
    pure (CodePoint.ofNat (digits.foldl (fun n c => 8 * n + (c.toNat - 48)) 0))
  else badEscape first

/-- An escape that stands for a set, inside brackets or outside them; none for what is no set. -/
def readEscapedSet (c : CodePoint) (inBrackets : Bool) : Reading (Option CharSet) := do
  let flags := (← get).flags
  match c with
  | 'x' => (some <| .char ·) <$> readHexEscape 'x' 2
  | 'u' => (some <| .char ·) <$> readHexEscape 'u' 4
  | 'U' => (some <| .char ·) <$> readHexEscape 'U' 8
  | 'p' => some <$> readProperty true
  | 'P' => some <$> readProperty false
  | 'N' => do
    let saved ← get
    if ← accept ['{'] then do
      let _ ← takeWhile fun c =>
        Text.isAsciiDigit c || Text.isAsciiLetter c || c = ' ' || c = '-'
      if ← accept ['}'] then failHere "undefined character name"
      else do
        set saved
        pure (some (.char 'N'))
    else pure (some (.char 'N'))
  | c =>
    if Text.isAsciiLetter c then
      if !inBrackets && (escapeAnchor? c).isSome then pure none
      else
        match escapeClass? flags c with
        | some s => pure (some s)
        | none =>
          match escapeChar? c with
          | some d => pure (some (.char d))
          | none => badEscape c
    else if Text.isAsciiDigit c then
      if inBrackets || c = '0' then (some <| .char ·) <$> readOctal c else pure none
    else pure (some (.char c))

/-- A backreference by number, or an octal escape of three digits. -/
def readNumberEscape (c : CodePoint) : Reading Node := do
  let rule := (← get).flags.caseRule
  let afterFirst ← get
  let reference : Text → Reading Node := fun digits => do
    let key : GroupKey := .number (Number.digitsValue digits)
    if ← isOpen key then failHere "cannot refer to an open group"
    else backreferenceTo key (← position)
  match ← char? with
  | some d =>
    if Text.isAsciiDigit d then do
      let afterSecond ← get
      match ← char? with
      | some e =>
        if isOctal c && isOctal d && isOctal e then
          let value := ((c.toNat - 48) * 64 + (d.toNat - 48) * 8 + (e.toNat - 48)) % 512
          pure (.one (.char (CodePoint.ofNat value)) rule)
        else do
          set afterSecond
          reference [c, d]
      | none => do
        set afterSecond
        reference [c, d]
    else do
      set afterFirst
      reference [c]
  | none => do
    set afterFirst
    reference [c]

/-- A group reference between angle brackets, if there is one. -/
def readGroupReference? : Reading (Option Node) := do
  let saved ← get
  let attempt : Reading Node := do
    expect ['<'] "missing <"
    let start ← position
    let name ← readName true false
    expect ['>'] "missing >"
    let key := keyOfName name
    if ← isOpen key then failHere "cannot refer to an open group"
    else backreferenceTo key start
  try some <$> attempt
  catch _ => do
    set saved
    pure none

def lineEnding : Node :=
  .atomic (.alt (.seq (.one (.char '\r') .exact) (.one (.char '\n') .exact))
    (.one (.union [.range '\n' '\r', .char (CodePoint.ofNat 0x85), .char (CodePoint.ofNat 0x2028),
      .char (CodePoint.ofNat 0x2029)]) .exact))

/-- An escape outside brackets. -/
def readEscape : Reading Node := do
  let flags := (← get).flags
  match ← rawChar? with
  | none => failHere "bad escape (end of pattern)"
  | some 'g' => do
    match ← readGroupReference? with
    | some n => pure n
    | none => pure (.one (.char 'g') flags.caseRule)
  | some 'L' => do
    expect ['<'] "missing <"
    let _ ← readName true false
    expect ['>'] "missing >"
    failHere "undefined named list"
  | some 'R' => pure lineEnding
  | some 'K' => pure .keep
  | some 'X' =>
    pure (.seq (.one (.property .any) .exact)
      (.repeated (.one (.property (.category [5, 6, 7])) .exact) 0 none .possessive))
  | some c => do
    match ← readEscapedSet c false with
    | some s => pure (.one s flags.caseRule)
    | none =>
      match escapeAnchor? c with
      | some a => pure (.anchor a flags.ascii)
      | none => readNumberEscape c

/-- A class between colons inside brackets, if there is one. -/
def readNamedClass? : Reading (Option CharSet) := do
  let saved ← get
  if !(← accept ['[', ':']) then pure none
  else do
    let negate ← accept ['^']
    let (family, name) ← readPropertyName
    if ← accept [':', ']'] then
      match family, Property.standardName name with
      | none, "PUNCT" =>
        let s : CharSet := .property (.category [11, 12, 13, 14, 15, 16, 17, 18, 19, 20, 21])
        pure (some (if negate then .complement s else s))
      | none, "DIGIT" =>
        pure (some (if negate then .complement (.range '0' '9') else .range '0' '9'))
      | _, _ => some <$> lookUpProperty family name (!negate)
    else do
      set saved
      pure none

/-- One item inside brackets. -/
def readSetItem : Reading CharSet := do
  if ← accept ['\\'] then
    match ← rawChar? with
    | none => failHere "bad escape (end of pattern)"
    | some c =>
      match ← readEscapedSet c true with
      | some s => pure s
      | none => badEscape c
  else
    match ← readNamedClass? with
    | some s => pure s
    | none =>
      match ← rawChar? with
      | none => failHere "unterminated character set"
      | some c => pure (.char c)

/-- An item or a range inside brackets. -/
def readSetMember : Reading CharSet := do
  let start ← readSetItem
  match start with
  | .char a => do
    if !(← accept ['-']) then pure start
    else do
      let saved ← get
      if ← accept [']'] then do
        set saved
        pure (.union [start, .char '-'])
      else do
        let stop ← readSetItem
        match stop with
        | .char b =>
          if b < a then failHere "bad character range" else pure (.range a b)
        | _ => pure (.union [start, .char '-', stop])
  | _ => pure start

/-- A set up to its closing bracket, which may be its first member. -/
def readSet : Reading Node := do
  let flags := (← get).flags
  modify fun s => { s with flags := { s.flags with verbose := false } }
  let negate ← accept ['^']
  let first ← readSetMember
  let rec go : Nat → List CharSet → Reading (List CharSet)
    | 0, out => pure out.reverse
    | fuel + 1, out => do
      let saved ← get
      if ← accept [']'] then do
        set saved
        pure out.reverse
      else do
        let m ← readSetMember
        go fuel (m :: out)
  let members ← go ((← get).rest.length + 1) [first]
  expect [']'] "missing ]"
  modify fun s => { s with flags := flags }
  let set : CharSet := match members with
    | [m] => m
    | ms => .union ms
  pure (.one (if negate then .complement set else set) flags.caseRule)

/-- Bounds between braces, if they are well-formed. -/
def readBounds? : Reading (Option (Nat × Option Nat)) := do
  let saved ← get
  let start ← position
  let least ← takeWhile Text.isAsciiDigit
  let comma ← accept [',']
  let most ← if comma then takeWhile Text.isAsciiDigit else pure []
  if !comma && least.isEmpty then do
    set saved
    pure none
  else if !(← accept ['}']) then do
    set saved
    pure none
  else
    let low := Number.digitsValue least
    let high : Option Nat :=
      if comma then (if most.isEmpty then none else some (Number.digitsValue most)) else some low
    let limit := 0xffffffff
    if low ≥ limit ∨ high.any (· ≥ limit) then fail "repeat count too big".toText start
    else if high.any (· < low) then fail "min repeat greater than max repeat".toText start
    else pure (some (low, high))

/-- Bounds on the errors of an approximate match; only an exact match is made. -/
def readErrorBounds? : Reading Bool := do
  let saved ← get
  match ← char? with
  | some c =>
    if "deis".toText.contains c then do
      let _ ← takeWhile fun c =>
        "deis<=,+".toText.contains c || Text.isAsciiDigit c
      expect ['}'] "expected \x7d"
      pure true
    else do
      set saved
      pure false
  | none => do
    set saved
    pure false

def readQuantifier? (c : CodePoint) : Reading (Option (Nat × Option Nat)) :=
  match c with
  | '?' => pure (some (0, some 1))
  | '*' => pure (some (0, none))
  | '+' => pure (some (1, none))
  | '{' => readBounds?
  | _ => pure none

/-- How the counts of a quantifier are tried, by the mark behind it. -/
def readGreed : Reading Greed := do
  if ← accept ['?'] then pure .lazy
  else if ← accept ['+'] then pure .possessive
  else pure .greedy

/-- Puts a quantifier on the last element, which is missing at the start and after a quantifier. -/
def quantify (least : Nat) (most : Option Nat) (start : Nat) :
    List (Option Node) → Reading (List (Option Node))
  | none :: rest =>
    fail (if rest.isEmpty then "nothing to repeat" else "multiple repeat").toText start
  | some e :: rest => do
    let greed ← readGreed
    let repeated :=
      if e.isEmpty || (least == 1 && most == some 1) then e else .repeated e least most greed
    pure (none :: some repeated :: rest)
  | [] => fail "nothing to repeat".toText start

/-- A comment up to its closing parenthesis. -/
def skipComment : Nat → Reading Unit
  | 0 => pure ()
  | fuel + 1 => do
    let saved ← get
    match ← rawChar? with
    | none => expect [')'] "missing )"
    | some ')' => do
      set saved
      expect [')'] "missing )"
    | some '\\' => do
      let _ ← rawChar?
      skipComment fuel
    | some _ => skipComment fuel

/-- Flags that letters turn on; the letters of other flags are passed over. -/
def readFlagLetters : Reading (Flags × Nat) := do
  let rec go : Nat → Flags → Nat → Reading (Flags × Nat)
    | 0, flags, n => pure (flags, n)
    | fuel + 1, flags, n => do
      let saved ← get
      match ← char? with
      | some 'i' => go fuel { flags with ignoreCase := true } (n + 1)
      | some 'm' => go fuel { flags with multiLine := true } (n + 1)
      | some 's' => go fuel { flags with dotAll := true } (n + 1)
      | some 'x' => go fuel { flags with verbose := true } (n + 1)
      | some 'a' => go fuel { flags with ascii := true } (n + 1)
      | some 'u' => go fuel { flags with unicode := true } (n + 1)
      | some 'V' => do
        match ← char? with
        | some '0' => go fuel flags (n + 1)
        | some '1' => go fuel flags (n + 1)
        | _ => do
          set saved
          pure (flags, n)
      | some c =>
        if "befprw".toText.contains c then go fuel flags (n + 1)
        else do
          set saved
          pure (flags, n)
      | none => do
        set saved
        pure (flags, n)
  go ((← get).rest.length + 1) {} 0

def Flags.union (a b : Flags) : Flags :=
  ⟨a.ignoreCase || b.ignoreCase, a.multiLine || b.multiLine, a.dotAll || b.dotAll,
    a.verbose || b.verbose, a.ascii || b.ascii, a.unicode || b.unicode⟩

def Flags.without (a b : Flags) : Flags :=
  ⟨a.ignoreCase && !b.ignoreCase, a.multiLine && !b.multiLine, a.dotAll && !b.dotAll,
    a.verbose && !b.verbose, a.ascii && !b.ascii, a.unicode && !b.unicode⟩

def Flags.overlaps (a b : Flags) : Bool :=
  (a.ignoreCase && b.ignoreCase) || (a.multiLine && b.multiLine) || (a.dotAll && b.dotAll) ||
    (a.verbose && b.verbose) || (a.ascii && b.ascii) || (a.unicode && b.unicode)

/-- Runs a reader and puts the flags back that were set before it. -/
def withFlags {α : Type} (f : Flags → Flags) (r : Reading α) : Reading α := do
  let saved := (← get).flags
  modify fun s => { s with flags := f s.flags }
  let a ← r
  modify fun s => { s with flags := saved }
  pure a

/-- More branches whose groups count from `initial`, with the greatest count behind one so far. -/
def readBranches (branch : Reading Node) (initial : Nat) :
    Nat → Nat → List Node → Reading (Nat × List Node)
  | 0, high, out => pure (high, out)
  | k + 1, high, out => do
    if ← accept ['|'] then do
      modify fun s => { s with groupCount := initial }
      let n ← branch
      readBranches branch initial k (max high (← get).groupCount) (out ++ [n])
    else pure (high, out)

mutual
/-- Alternatives up to a closing parenthesis or the end. -/
def readAlternatives (fuel : Nat) : Reading Node :=
  match fuel with
  | 0 => failHere "pattern too deep"
  | fuel + 1 => do
    let first ← readSequence fuel [none]
    let rest ← readMore fuel
    pure (Node.ofAlternatives (first :: rest))

def readMore (fuel : Nat) : Reading (List Node) :=
  match fuel with
  | 0 => pure []
  | fuel + 1 => do
    if ← accept ['|'] then do
      let n ← readSequence fuel [none]
      let ns ← readMore fuel
      pure (n :: ns)
    else pure []

/-- Elements one after the other; those read so far come last first. -/
def readSequence (fuel : Nat) (items : List (Option Node)) : Reading Node :=
  match fuel with
  | 0 => failHere "pattern too deep"
  | fuel + 1 => do
    let saved ← get
    let start := saved.position
    let finish : Reading Node := do
      set saved
      pure (Node.ofSequence (items.filterMap id).reverse)
    let rule := saved.flags.caseRule
    let literal : CodePoint → Reading Node := fun c =>
      readSequence fuel (some (.one (.char c) rule) :: items)
    match ← char? with
    | none => finish
    | some ')' => finish
    | some '|' => finish
    | some '\\' => do
      let n ← readEscape
      readSequence fuel (some n :: items)
    | some '(' => do
      match ← readParenthesis fuel with
      | some n => readSequence fuel (some n :: items)
      | none => readSequence fuel items
    | some '.' =>
      let set := if saved.flags.dotAll then .property .any else .complement (.char '\n')
      readSequence fuel (some (.one set .exact) :: items)
    | some '[' => do
      let n ← readSet
      readSequence fuel (some n :: items)
    | some '^' =>
      readSequence fuel
        (some (.anchor (if saved.flags.multiLine then .lineStart else .textStart) false) :: items)
    | some '$' =>
      readSequence fuel
        (some (.anchor (if saved.flags.multiLine then .lineEnd else .lastLineEnd) false) :: items)
    | some c => do
      match ← readQuantifier? c with
      | some (least, most) => do
        let items ← quantify least most start items
        readSequence fuel items
      | none =>
        if c = '{' then do
          if ← readErrorBounds? then
            match items with
            | some e :: rest => readSequence fuel (none :: some e :: rest)
            | _ => fail "nothing for fuzzy constraint".toText start
          else literal c
        else literal c

/-- What follows an opening parenthesis; none for what is no element. -/
def readParenthesis (fuel : Nat) : Reading (Option Node) :=
  match fuel with
  | 0 => failHere "pattern too deep"
  | fuel + 1 => do
    let saved ← get
    let capture : Option Text → Reading (Option Node) := fun name => do
      let index ← openGroup name
      if name.isSome then expect ['>'] "missing >"
      let body ← withFlags id (do
        let n ← readAlternatives fuel
        expect [')'] "missing )"
        pure n)
      closeGroup
      pure (some (.group index body))
    let inside : Reading Node := withFlags id (do
      let n ← readAlternatives fuel
      expect [')'] "missing )"
      pure n)
    let callNamed : Nat → Reading (Option Node) := fun start => do
      let name ← readName true true
      expect [')'] "missing )"
      let key := keyOfName name
      refer key start true
      pure (some (.call key))
    match ← rawChar? with
    | some '?' => do
      let afterMark ← get
      match ← rawChar? with
      | some '<' => do
        let afterAngle ← get
        match ← char? with
        | some '=' => do
          let n ← inside
          pure (some (.look true true n))
        | some '!' => do
          let n ← inside
          pure (some (.look true false n))
        | _ => do
          set afterAngle
          let name ← readName false false
          capture (some name)
      | some '=' => do
        let n ← inside
        pure (some (.look false true n))
      | some '!' => do
        let n ← inside
        pure (some (.look false false n))
      | some 'P' => do
        let start ← position
        match ← char? with
        | some '<' => do
          let name ← readName false false
          capture (some name)
        | some '=' => do
          let name ← readName true false
          expect [')'] "missing )"
          let key := keyOfName name
          if ← isOpen key then fail "cannot refer to an open group".toText start
          else some <$> backreferenceTo key start
        | some '>' => callNamed start
        | some '&' => callNamed start
        | _ => fail "unknown extension".toText start
      | some '#' => do
        skipComment ((← get).rest.length + 1)
        pure none
      | some '(' => readConditional fuel
      | some '>' => do
        let n ← inside
        pure (some (.atomic n))
      | some '|' => readReset fuel
      | some '&' => callNamed afterMark.position
      | some c => do
        if c = 'R' || Text.isAsciiDigit c then do
          let digits ← if c = .char 'R' then pure [.char '0']
            else (c :: ·) <$> takeWhile Text.isAsciiDigit
          expect [')'] "missing )"
          let key : GroupKey := .number (Number.digitsValue digits)
          refer key afterMark.position true
          pure (some (.call key))
        else do
          set afterMark
          readFlagGroup fuel
      | none => do
        set afterMark
        readFlagGroup fuel
    | some '*' => do
      let word ← takeWhile fun c => Text.isAsciiLetter c
      if word = "F".toText ∨ word = "FAIL".toText then do
        expect [')'] "missing )"
        pure (some .fail)
      else if word.isEmpty then do
        set saved
        capture none
      else failHere "unknown verb"
    | _ => do
      set saved
      capture none

/-- A condition on a group or on what stands before or after, and its two branches. -/
def readConditional (fuel : Nat) : Reading (Option Node) :=
  match fuel with
  | 0 => failHere "pattern too deep"
  | fuel + 1 => do
    let saved ← get
    let branches : Reading (Node × Node) := do
      let yes ← readSequence fuel [none]
      let no ← if ← accept ['|'] then readSequence fuel [none] else pure .empty
      expect [')'] "missing )"
      pure (yes, no)
    let onLook : Bool → Bool → Reading (Option Node) := fun behind positive => do
      let condition ← withFlags id (do
        let n ← readAlternatives fuel
        expect [')'] "missing )"
        pure n)
      let (yes, no) ← withFlags id branches
      pure (some (.ifLook behind positive condition yes no))
    if ← accept ['?'] then
      match ← char? with
      | some '=' => onLook false true
      | some '!' => onLook false false
      | some '<' =>
        match ← char? with
        | some '=' => onLook true true
        | some '!' => onLook true false
        | _ => fail "expected lookaround conditional".toText saved.position
      | _ => fail "expected lookaround conditional".toText saved.position
    else do
      let name ← readName true false
      expect [')'] "missing )"
      let (yes, no) ← withFlags id branches
      let key := keyOfName name
      if yes.isEmpty && no.isEmpty then pure (some .empty)
      else do
        if key != .name "DEFINE".toText then refer key saved.position false
        pure (some (.ifGroup key yes no))

/-- Branches whose groups count from the same number. -/
def readReset (fuel : Nat) : Reading (Option Node) :=
  match fuel with
  | 0 => failHere "pattern too deep"
  | fuel + 1 => do
    let initial := (← get).groupCount
    let first ← readSequence fuel [none]
    let (high, rest) ←
      readBranches (readSequence fuel [none]) initial fuel (← get).groupCount [first]
    modify fun s => { s with groupCount := high }
    expect [')'] "missing )"
    pure (some (Node.ofAlternatives rest))

/-- Flags for the whole pattern, or for a part of it behind a colon. -/
def readFlagGroup (fuel : Nat) : Reading (Option Node) :=
  match fuel with
  | 0 => failHere "pattern too deep"
  | fuel + 1 => do
    let (on, _) ← readFlagLetters
    let minus ← accept ['-']
    let (off, count) ← if minus then readFlagLetters else pure ({}, 0)
    if minus && count == 0 then failHere "bad inline flags: no flags after '-'"
    else if on.overlaps off then failHere "bad inline flags: flag turned on and off"
    else if ← accept [':'] then
      some <$> withFlags (fun f => (f.union on).without off) (do
        let n ← readAlternatives fuel
        expect [')'] "missing )"
        pure n)
    else if ← accept [')'] then
      if minus then failHere "bad inline flags: cannot turn flags off"
      else do
        let s ← get
        let whole := s.wholeFlags.union on
        if whole ≠ s.wholeFlags then throw (.restart whole) else pure none
    else failHere "unknown extension"
end

/-- A pattern that has been read: its tree, how many groups it has and what they are called. -/
structure Compiled where
  root : Node
  groupCount : Nat
  names : List (Text × Nat)

/-- Checks that every group referred to exists, in the order of the references. -/
def checkReferences (groupCount : Nat) (names : List (Text × Nat)) :
    List (GroupKey × Nat × Bool) → Except CompileFailure Unit
  | [] => .ok ()
  | (key, position, allowZero) :: rest =>
    let known : Except CompileFailure Unit := match key with
      | .number n =>
        if n ≤ groupCount ∧ (allowZero ∨ 0 < n) then .ok ()
        else .error (.invalid "invalid group reference".toText position)
      | .name t =>
        if names.any (·.1 = t) then .ok () else .error (.invalid "unknown group".toText position)
    match known with
    | .error e => .error e
    | .ok () => checkReferences groupCount names rest

/-- Reads with given flags, again for every flag that the pattern turns on for itself. -/
def readWith (pattern : Text) : Nat → Flags → Except CompileFailure Compiled
  | 0, _ => .error (.invalid "too many flags".toText 0)
  | tries + 1, flags =>
    let start : ReaderState := ⟨pattern, 0, flags, flags, 0, [], [], []⟩
    match (readAlternatives (4 * pattern.length + 10)).run start with
    | .error (.restart flags) _ => readWith pattern tries flags
    | .error (.error reason position) _ => .error (.invalid reason position)
    | .ok root s =>
      let trailing := if s.flags.verbose then ignoredLength s.rest else 0
      if trailing < s.rest.length then .error (.invalid "unbalanced parenthesis".toText s.position)
      else if flags.ascii && flags.unicode then .error (.fault .incompatibleFlags)
      else
        match checkReferences s.groupCount s.names s.references.reverse with
        | .error e => .error e
        | .ok () => .ok ⟨root, s.groupCount, s.names⟩

def compile (pattern : Text) : Except CompileFailure Compiled := readWith pattern 8 {}

end BraceTemplate.Pattern
