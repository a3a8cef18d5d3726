import BraceTemplate.Calendar.Moment
import BraceTemplate.Codec.Base64
import BraceTemplate.Number.Reading
import BraceTemplate.Text.Case
import BraceTemplate.Yaml.Source
import BraceTemplate.Value

/-!
# BraceTemplate.Yaml.Tag

The kinds of a document's values, the kind that a plain scalar has by its form, and the values that
scalars of each kind denote.
-/

namespace BraceTemplate.Yaml

inductive Tag where
  | null
  | bool
  | int
  | float
  | octets
  | timestamp
  | text
  | sequence
  | mapping
  | set
  | orderedMap
  | pairs
  /-- The key whose value is a mapping, or several, to take entries from. -/
  | merge
  /-- The key whose value stands for the mapping where a scalar is wanted. -/
  | default
  | unknown
  deriving DecidableEq, Repr

namespace Tag

/-- The beginning of the tags that have a meaning. -/
def space : Text := "tag:yaml.org,2002:".toText

def ofName : String → Tag
  | "null" => null
  | "bool" => bool
  | "int" => int
  | "float" => float
  | "binary" => octets
  | "timestamp" => timestamp
  | "str" => text
  | "seq" => sequence
  | "map" => mapping
  | "set" => set
  | "omap" => orderedMap
  | "pairs" => pairs
  | "merge" => merge
  | "value" => default
  | _ => unknown

def ofText (t : Text) : Tag :=
  match Text.after? space t with
  | some name => ofName (Text.string name)
  | none => unknown

/-! ## The kind of a plain scalar -/

def isAnyOf (words : List String) (t : Text) : Bool := words.any fun w => w.toText = t

def isNullForm (t : Text) : Bool := isAnyOf ["", "~", "null", "Null", "NULL"] t

def isBoolForm (t : Text) : Bool :=
  isAnyOf ["yes", "Yes", "YES", "no", "No", "NO", "true", "True", "TRUE", "false", "False", "FALSE",
    "on", "On", "ON", "off", "Off", "OFF"] t

/-- At least one character, all of a class. -/
def isRunOf (p : CodePoint → Bool) (t : Text) : Bool := !t.isEmpty && t.all p

def isDigitOrLowLine (c : CodePoint) : Bool := Text.isAsciiDigit c || c = '_'

/-- Digits and low lines behind a first digit. -/
def isDigits (t : Text) : Bool := t.head?.any Text.isAsciiDigit && t.all isDigitOrLowLine

def isRadixDigit (radix : Nat) (c : CodePoint) : Bool :=
  c = '_' || (Text.hexValue? c).any fun d => decide (d < radix)

/-- A part of a number to the base sixty: one digit, or two that are less than sixty. -/
def isSixtieth : Text → Bool
  | [c] => Text.isAsciiDigit c
  | [c, d] => decide ('0' ≤ c) && decide (c ≤ '5') && Text.isAsciiDigit d
  | _ => false

/-- A number to the base sixty of more than one part, the first of a given form. -/
def isSexagesimal (isFirst : Text → Bool) (t : Text) : Bool :=
  match Text.splitOn ':' t with
  | first :: part :: parts => isFirst first && (part :: parts).all isSixtieth
  | _ => false

def isIntForm (t : Text) : Bool :=
  let startsPositive : Text → Bool := fun t => t.head? ≠ some (.char '0') && isDigits t
  match (Number.splitSign t).2 with
  | ['0'] => true
  | '0' :: 'b' :: digits => isRunOf (isRadixDigit 2) digits
  | '0' :: 'x' :: digits => isRunOf (isRadixDigit 16) digits
  | '0' :: digits => isRunOf (isRadixDigit 8) digits
  | body => startsPositive body || isSexagesimal startsPositive body

/-- An exponent with its sign, or nothing. -/
def isExponentForm : Text → Bool
  | [] => true
  | e :: sign :: digits =>
    (e = 'e' || e = 'E') && (sign = '+' || sign = '-') && isRunOf Text.isAsciiDigit digits
  | _ => false

def isFloatForm (t : Text) : Bool :=
  let body := (Number.splitSign t).2
  let whole := body.takeWhile (· ≠ .char '.')
  match body.dropWhile (· ≠ .char '.') with
  | '.' :: rest =>
    let part := rest.takeWhile isDigitOrLowLine
    let exponent := rest.dropWhile isDigitOrLowLine
    (isDigits whole && isExponentForm exponent) ||
      (body = t && whole.isEmpty && isDigits part && isExponentForm exponent) ||
      (isSexagesimal isDigits whole && exponent.isEmpty) ||
      (whole.isEmpty && isAnyOf ["inf", "Inf", "INF"] rest) ||
      (body = t && whole.isEmpty && isAnyOf ["nan", "NaN", "NAN"] rest)
  | _ => false

/-! ## Timestamps -/

/-- The fields of a timestamp as they are written; the clock is left out in a date. -/
structure Stamp where
  year : Text
  month : Text
  day : Text
  clock : Option (Text × Text × Text)
  fraction : Text
  /-- Sign, hours and minutes of the offset; no sign is universal time. -/
  offset : Option (Option (CodePoint × Text × Text))
  deriving DecidableEq, Repr

/-- Between `least` and `most` digits, as many as there are, and the rest. -/
def readDigits? (least most : Nat) (t : Text) : Option (Text × Text) :=
  let digits := (t.take most).takeWhile Text.isAsciiDigit
  if digits.length < least then none else some (digits, t.drop digits.length)

/-- Digits behind a mark. -/
def readMarked? (mark : CodePoint) (least most : Nat) : Text → Option (Text × Text)
  | c :: t => if c = mark then readDigits? least most t else none
  | [] => none

/-- The offset at the end of a timestamp. -/
def readOffset? (t : Text) : Option (Option (Option (CodePoint × Text × Text))) :=
  match t.dropWhile fun c => c = .char ' ' || c = .char '\t' with
  | [] => if t.isEmpty then some none else none
  | ['Z'] => some (some none)
  | sign :: rest =>
    if sign = '+' ∨ sign = '-' then
      match readDigits? 1 2 rest with
      | none => none
      | some (hours, []) => some (some (some (sign, hours, [])))
      | some (hours, rest) =>
        match readMarked? ':' 2 2 rest with
        | some (minutes, []) => some (some (some (sign, hours, minutes)))
        | _ => none
    else none

/-- The part of a timestamp behind the date. -/
def readClock? (year month day : Text) (t : Text) : Option Stamp :=
  let rest? : Option Text := match t with
    | 'T' :: rest => some rest
    | 't' :: rest => some rest
    | ' ' :: rest => some (rest.dropWhile fun c => c = ' ' || c = '\t')
    | '\t' :: rest => some (rest.dropWhile fun c => c = ' ' || c = '\t')
    | _ => none
  do
    let (hour, rest) ← readDigits? 1 2 (← rest?)
    let (minute, rest) ← readMarked? ':' 2 2 rest
    let (second, rest) ← readMarked? ':' 2 2 rest
    let (fraction, rest) := match rest with
      | '.' :: rest => (rest.takeWhile Text.isAsciiDigit, rest.dropWhile Text.isAsciiDigit)
      | rest => ([], rest)
    let offset ← readOffset? rest
    pure ⟨year, month, day, some (hour, minute, second), fraction, offset⟩

def readStamp? (t : Text) : Option Stamp := do
  let (year, rest) ← readDigits? 4 4 t
  let (month, rest) ← readMarked? '-' 1 2 rest
  let (day, rest) ← readMarked? '-' 1 2 rest
  if rest.isEmpty then pure ⟨year, month, day, none, [], none⟩ else readClock? year month day rest

/-- Whether a plain scalar is a timestamp: in a date without a clock, month and day have two
digits. -/
def isTimestampForm (t : Text) : Bool :=
  match readStamp? t with
  | none => false
  | some s => s.clock.isSome || (s.month.length = 2 && s.day.length = 2)

/-- The kind of a plain scalar. -/
def ofPlain (t : Text) : Tag :=
  let t := if t.getLast? = some (.char '\n') then t.dropLast else t
  if isBoolForm t then bool
  else if isFloatForm t then float
  else if isIntForm t then int
  else if t = "<<".toText then merge
  else if isNullForm t then null
  else if isTimestampForm t then timestamp
  else if t = [.char '='] then default
  else text

/-! ## The values of scalars -/

def malformed {α : Type} : Except Error α := .error (.fault .malformedScalar)

def boolOf (t : Text) : Except Error Value :=
  let word := Text.lower t
  if isAnyOf ["yes", "true", "on"] word then .ok (.bool true)
  else if isAnyOf ["no", "false", "off"] word then .ok (.bool false)
  else .error (.fault .unknownTruthWord)

/-- The number that digits of a base denote. -/
def ofRadix (radix : Nat) (t : Text) : Except Error Int :=
  if isRunOf (isRadixDigit radix) t then
    .ok (t.foldl (fun n c => n * radix + (Text.hexValue? c).getD 0) 0)
  else malformed

def ofDecimal (t : Text) : Except Error Int :=
  match Number.readIntegerText? t with
  | some i => .ok i
  | none => malformed

/-- The parts of a number to the base sixty, put together. -/
def ofSixtieths : Int → List Text → Except Error Int
  | n, [] => .ok n
  | n, part :: parts =>
    match ofDecimal part with
    | .ok i => ofSixtieths (n * 60 + i) parts
    | .error e => .error e

/-- A number's text without low lines: whether it has a minus sign, and its body. -/
def signed (t : Text) : Except Error (Bool × Text) :=
  if t.isEmpty then .error (.fault .emptyNumber) else .ok (Number.splitSign t)

def intOf (t : Text) : Except Error Value :=
  match signed (t.filter (· ≠ '_')) with
  | .error e => .error e
  | .ok (negative, body) =>
    let magnitude : Except Error Int := match body with
      | [] => .error (.fault .emptyNumber)
      | ['0'] => .ok 0
      | '0' :: 'b' :: digits => ofRadix 2 digits
      | '0' :: 'x' :: digits => ofRadix 16 digits
      | '0' :: 'o' :: digits => ofRadix 8 digits
      | '0' :: 'O' :: digits => ofRadix 8 digits
      | '0' :: digits => ofRadix 8 digits
      | body => if body.contains ':' then ofSixtieths 0 (Text.splitOn ':' body) else ofDecimal body
    match magnitude with
    | .error e => .error e
    | .ok n => .ok (.int (if negative then -n else n))

/-- Fractions to the base sixty, the last one first, each with its weight. -/
def addSixtieths (sum : Number.Binary64) (weight : Int) : List Text → Except Error Number.Binary64
  | [] => .ok sum
  | part :: parts =>
    match Number.readBinary64? part with
    | some x => addSixtieths (sum.add (x.mul (Number.Binary64.ofInt weight))) (weight * 60) parts
    | none => malformed

def floatOf (t : Text) : Except Error Value :=
  match signed (Text.lower (t.filter (· ≠ '_'))) with
  | .error e => .error e
  | .ok (negative, body) =>
    let magnitude : Except Error Number.Binary64 :=
      if body = ".inf".toText then .ok (Number.Binary64.infinity false)
      else if body.contains ':' then
        addSixtieths (Number.Binary64.zero false) 1 (Text.splitOn ':' body).reverse
      else
        match Number.readBinary64? body with
        | some x => .ok x
        | none => malformed
    if body = ".nan".toText then .ok (.float Number.Binary64.nan)
    else
      match magnitude with
      | .error e => .error e
      | .ok x => .ok (.float { x with negative := x.negative != negative })

/-- Octets of Base64 text, in which other characters are passed over, up to the padding. The
digits of a group that has begun are given by their number and their value. -/
def ofBase64? (count group : Nat) : Text → Option (List Nat)
  | [] => if count = 0 then some [] else none
  | c :: t =>
    match Codec.Base64.digitValue? c with
    | some d =>
      let group := group * 64 + d
      if count = 3 then
        (ofBase64? 0 0 t).map ([group / 65536, group / 256 % 256, group % 256] ++ ·)
      else ofBase64? (count + 1) group t
    | none =>
      if c = '=' then
        if count = 3 then some [group / 1024, group / 4 % 256]
        else if count = 2 ∧
          (t.dropWhile fun c => c ≠ .char '=' && !isBase64Digit c).head? = some (.char '=') then
          some [group / 16]
        else ofBase64? count group t
      else ofBase64? count group t
where
  isBase64Digit (c : CodePoint) : Bool := (Codec.Base64.digitValue? c).isSome

def octetsOf (t : Text) : Except Error Value :=
  if t.all fun c => decide (c.toNat < 128) then
    match ofBase64? 0 0 t with
    | some bytes => .ok (.octets bytes)
    | none => .error .malformed
  else .error .malformed

/-- Microseconds of a timestamp's offset; less than a day. -/
def offsetOf : Option (Option (CodePoint × Text × Text)) → Except Error (Option Int)
  | none => .ok none
  | some none => .ok (some 0)
  | some (some (sign, hours, minutes)) =>
    let n : Int := (Number.digitsValue hours * 60 + Number.digitsValue minutes) * 60000000
    if n < Calendar.microsPerDay then .ok (some (if sign = '-' then -n else n)) else malformed

def ofStamp (s : Stamp) : Except Error Value :=
  let number := Number.digitsValue
  let date : Calendar.Date := ⟨number s.year, number s.month, number s.day⟩
  match s.clock with
  | none => if date.isValid then .ok (.date date) else malformed
  | some (hour, minute, second) =>
    match offsetOf s.offset with
    | .error e => .error e
    | .ok offset =>
      if date.isValid && decide (number hour < 24) && decide (number minute < 60) &&
          decide (number second < 60) then
        .ok (.moment (.ofFields date (number hour) (number minute) (number second)
          (number ((s.fraction ++ "000000".toText).take 6)) offset))
      else malformed

def timestampOf (t : Text) : Except Error Value :=
  match readStamp? t with
  | some s => ofStamp s
  | none => .error (.fault .malformedTimestamp)

end Tag

end BraceTemplate.Yaml
