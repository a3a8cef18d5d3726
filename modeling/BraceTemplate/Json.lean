import BraceTemplate.Codec.Utf16
import BraceTemplate.Number.Decimal
import BraceTemplate.Value

/-!
# BraceTemplate.Json

Values as JSON text. Reading takes the names of the special numbers too, and of equal names in an
object the last wins. Writing keeps the order of entries; dates, moments, octets and sets are
written as their text.
-/

namespace BraceTemplate.Json

inductive Error where
  | malformed
  | fault (fault : Fault)
  deriving DecidableEq, Repr

/-! ## Reading -/

def isSpace (c : CodePoint) : Bool := c = ' ' || c = '\t' || c = '\n' || c = '\r'

def dropSpaces (t : Text) : Text := t.dropWhile isSpace

/-- A part of a string: a character, or a code unit that is escaped. -/
inductive Piece where
  | char (c : CodePoint)
  | unit (n : Nat)
  deriving DecidableEq, Repr

/-- What a letter behind a backslash stands for. -/
def escaped? : CodePoint → Option CodePoint
  | '"' => some '"'
  | '\\' => some '\\'
  | '/' => some '/'
  | 'b' => some '\x08'
  | 'f' => some '\x0c'
  | 'n' => some '\n'
  | 'r' => some '\r'
  | 't' => some '\t'
  | _ => none

def hexUnit? (a b c d : CodePoint) : Option Nat :=
  match Text.hexValue? a, Text.hexValue? b, Text.hexValue? c, Text.hexValue? d with
  | some a, some b, some c, some d => some (a * 4096 + b * 256 + c * 16 + d)
  | _, _, _, _ => none

/-- A piece in front of what is read behind it. -/
def consPiece (p : Piece) : Option (List Piece × Text) → Option (List Piece × Text)
  | some (ps, rest) => some (p :: ps, rest)
  | none => none

/-- The pieces of a string up to its closing quote, and the rest. -/
def readPieces? : Text → Option (List Piece × Text)
  | [] => none
  | '\\' :: 'u' :: a :: b :: c :: d :: t =>
    match hexUnit? a b c d with
    | some n => consPiece (.unit n) (readPieces? t)
    | none => none
  | '\\' :: e :: t =>
    match escaped? e with
    | some c => consPiece (.char c) (readPieces? t)
    | none => none
  | c :: t =>
    if c = '"' then some ([], t)
    else if c = '\\' ∨ c.toNat < 0x20 then none
    else consPiece (.char c) (readPieces? t)

/-- The text of pieces; two surrogates in order are one character. -/
def joinPieces : List Piece → Text
  | [] => []
  | .char c :: ps => c :: joinPieces ps
  | .unit m :: .unit n :: ps =>
    if 0xd800 ≤ m ∧ m < 0xdc00 ∧ 0xdc00 ≤ n ∧ n < 0xe000 then
      CodePoint.ofNat (0x10000 + (m - 0xd800) * 0x400 + (n - 0xdc00)) :: joinPieces ps
    else CodePoint.ofNat m :: joinPieces (.unit n :: ps)
  | .unit m :: ps => CodePoint.ofNat m :: joinPieces ps

def readString? (t : Text) : Option (Text × Text) :=
  match readPieces? t with
  | some (ps, rest) => some (joinPieces ps, rest)
  | none => none

/-- A number as it is written: the digits before the point, those behind it, and the exponent. -/
structure WrittenNumber where
  negative : Bool
  whole : Text
  fraction : Option Text
  exponent : Option (Bool × Text)
  deriving DecidableEq, Repr

/-- Digits without a leading zero. -/
def readWhole? : Text → Option (Text × Text)
  | '0' :: t => some (['0'], t)
  | t =>
    let digits := t.takeWhile Text.isAsciiDigit
    if digits.isEmpty then none else some (digits, t.dropWhile Text.isAsciiDigit)

/-- A point with digits behind it. -/
def readFraction (t : Text) : Option Text × Text :=
  match t with
  | '.' :: r =>
    let digits := r.takeWhile Text.isAsciiDigit
    if digits.isEmpty then (none, t) else (some digits, r.dropWhile Text.isAsciiDigit)
  | t => (none, t)

/-- An exponent with its sign. -/
def readExponent (t : Text) : Option (Bool × Text) × Text :=
  match t with
  | e :: r =>
    if e = 'e' ∨ e = 'E' then
      let (negative, body) := match r with
        | '-' :: b => (true, b)
        | '+' :: b => (false, b)
        | b => (false, b)
      let digits := body.takeWhile Text.isAsciiDigit
      if digits.isEmpty then (none, t)
      else (some (negative, digits), body.dropWhile Text.isAsciiDigit)
    else (none, t)
  | [] => (none, [])

def readNumber? (negative : Bool) (t : Text) : Option (WrittenNumber × Text) :=
  match readWhole? t with
  | none => none
  | some (whole, rest) =>
    let (fraction, rest) := readFraction rest
    let (exponent, rest) := readExponent rest
    some (⟨negative, whole, fraction, exponent⟩, rest)

/-- An integer if there is neither a point nor an exponent. -/
def WrittenNumber.value (n : WrittenNumber) : Except Error Value :=
  match n.fraction, n.exponent with
  | none, none =>
    match Number.readDigits n.whole with
    | .ok i => .ok (.int (if n.negative then -(i : Int) else i))
    | .error f => .error (.fault f)
  | fraction, exponent =>
    let part := fraction.getD []
    let e : Int := match exponent with
      | none => 0
      | some (negative, digits) =>
        let e : Int := Number.digitsValue digits
        if negative then -e else e
    .ok (.float (.ofDecimal n.negative (Number.digitsValue (n.whole ++ part)) (e - part.length)))

/-- A word, and the value that it stands for. -/
def words : List (Text × Value) :=
  [("null".toText, .none), ("true".toText, .bool true), ("false".toText, .bool false),
    ("NaN".toText, .float Number.Binary64.nan),
    ("Infinity".toText, .float (Number.Binary64.infinity false)),
    ("-Infinity".toText, .float (Number.Binary64.infinity true))]

def readWord? (t : Text) : Option (Value × Text) :=
  words.findSome? fun (w : Text × Value) => (Text.after? w.1 t).map fun rest => (w.2, rest)

def readScalar (t : Text) : Except Error (Value × Text) :=
  match readWord? t with
  | some r => .ok r
  | none =>
    let number := match t with
      | '-' :: r => readNumber? true r
      | t => readNumber? false t
    match number with
    | none => .error .malformed
    | some (n, rest) =>
      match n.value with
      | .ok v => .ok (v, rest)
      | .error e => .error e

/-- Puts a member into an object; a name that is there keeps its place. -/
def putMember (name : Text) (v : Value) : List (Value × Value) → List (Value × Value)
  | [] => [(.text name, v)]
  | (.text n, w) :: es =>
    if n = name then (.text n, v) :: es else (.text n, w) :: putMember name v es
  | e :: es => e :: putMember name v es

mutual
/-- Reads a value without blanks before it. -/
def readValue : Nat → Text → Except Error (Value × Text)
  | 0, _ => .error .malformed
  | fuel + 1, t =>
    match t with
    | '"' :: t =>
      match readString? t with
      | some (s, rest) => .ok (.text s, rest)
      | none => .error .malformed
    | '[' :: t =>
      match dropSpaces t with
      | ']' :: rest => .ok (.list [], rest)
      | t =>
        match readItems fuel t with
        | .ok (vs, rest) => .ok (.list vs, rest)
        | .error e => .error e
    | '\x7b' :: t =>
      match dropSpaces t with
      | '\x7d' :: rest => .ok (.dict [], rest)
      | t =>
        match readMembers fuel [] t with
        | .ok (es, rest) => .ok (.dict es, rest)
        | .error e => .error e
    | t => readScalar t

/-- Reads the items of an array, at least one. -/
def readItems : Nat → Text → Except Error (List Value × Text)
  | 0, _ => .error .malformed
  | fuel + 1, t =>
    match readValue fuel t with
    | .error e => .error e
    | .ok (v, rest) =>
      match dropSpaces rest with
      | ']' :: rest => .ok ([v], rest)
      | ',' :: rest =>
        match readItems fuel (dropSpaces rest) with
        | .ok (vs, rest) => .ok (v :: vs, rest)
        | .error e => .error e
      | _ => .error .malformed

/-- Reads the members of an object, at least one. -/
def readMembers : Nat → List (Value × Value) → Text →
    Except Error (List (Value × Value) × Text)
  | 0, _, _ => .error .malformed
  | fuel + 1, done, t =>
    match t with
    | '"' :: t =>
      match readString? t with
      | none => .error .malformed
      | some (name, rest) =>
        match dropSpaces rest with
        | ':' :: rest =>
          match readValue fuel (dropSpaces rest) with
          | .error e => .error e
          | .ok (v, rest) =>
            let done := putMember name v done
            match dropSpaces rest with
            | '\x7d' :: rest => .ok (done, rest)
            | ',' :: rest => readMembers fuel done (dropSpaces rest)
            | _ => .error .malformed
        | _ => .error .malformed
    | _ => .error .malformed
end

/-- The value that a text is, with blanks around it. -/
def read (t : Text) : Except Error Value :=
  match readValue (t.length + 1) (dropSpaces t) with
  | .error e => .error e
  | .ok (v, rest) => if (dropSpaces rest).isEmpty then .ok v else .error .malformed

/-! ## Writing -/

structure Layout where
  /-- Blanks for each level, if every item has a line of its own. -/
  indent : Option Nat
  /-- Whether all characters above ASCII are escaped. -/
  asciiOnly : Bool
  deriving DecidableEq, Repr

namespace Layout

/-- Everything on one line. -/
def compact : Layout := ⟨none, true⟩

def indented : Layout := ⟨some 2, true⟩

/-- Indented, with characters above ASCII as they are. -/
def readable : Layout := ⟨some 2, false⟩

/-- What comes before an item at a depth. -/
def newLine (l : Layout) (depth : Nat) : Text :=
  match l.indent with
  | none => []
  | some n => '\n' :: List.replicate (n * depth) ' '

/-- What stands between two items at a depth. -/
def separator (l : Layout) (depth : Nat) : Text :=
  match l.indent with
  | none => ", ".toText
  | some _ => ',' :: l.newLine depth

end Layout

/-- A code unit with four hexadecimal digits. -/
def unitText (n : Nat) : Text := '\\' :: 'u' :: Text.hexDigits 4 n

def charText (asciiOnly : Bool) (c : CodePoint) : Text :=
  if c = '"' then ['\\', '"']
  else if c = '\\' then ['\\', '\\']
  else if c = '\n' then ['\\', 'n']
  else if c = '\r' then ['\\', 'r']
  else if c = '\t' then ['\\', 't']
  else if c = '\x0c' then ['\\', 'f']
  else if c = '\x08' then ['\\', 'b']
  else if c.toNat < 0x20 then unitText c.toNat
  else if asciiOnly && decide (0x7e < c.toNat) then (Codec.Utf16.encodeChar c).flatMap unitText
  else [c]

def stringText (asciiOnly : Bool) (t : Text) : Text :=
  .char '"' :: t.flatMap (charText asciiOnly) ++ [.char '"']

def floatText (x : Number.Binary64) : Text :=
  if x.isNaN then "NaN".toText
  else if x.isInfinite then (if x.negative then "-Infinity" else "Infinity").toText
  else x.text

def boolText (b : Bool) : Text := if b then "true".toText else "false".toText

/-- The name of a member; numbers, truth values and no value are written as names. -/
def nameOf : Value → Except Fault Text
  | .text t => .ok t
  | .bool b => .ok (boolText b)
  | .none => .ok "null".toText
  | .int i => Number.decimalText i
  | .float x => .ok (floatText x)
  | _ => .error .unwritableKey

/-- Items between brackets, each on its line if the layout asks for it. -/
def enclose (l : Layout) (depth : Nat) (left right : CodePoint) (items : List Text) : Text :=
  if items.isEmpty then [left, right]
  else
    left :: l.newLine (depth + 1) ++ Text.join (l.separator (depth + 1)) items ++
      l.newLine depth ++ [right]

mutual
/-- The text of a value that stands at a depth. -/
def textAt (l : Layout) (depth : Nat) : Value → Except Fault Text
  | .none => .ok "null".toText
  | .bool b => .ok (boolText b)
  | .int i => Number.decimalText i
  | .float x => .ok (floatText x)
  | .text t => .ok (stringText l.asciiOnly t)
  | .list vs =>
    match itemTexts l (depth + 1) vs with
    | .ok ts => .ok (enclose l depth '[' ']' ts)
    | .error f => .error f
  | .tuple vs =>
    match itemTexts l (depth + 1) vs with
    | .ok ts => .ok (enclose l depth '[' ']' ts)
    | .error f => .error f
  | .dict es =>
    match memberTexts l (depth + 1) es with
    | .ok ts => .ok (enclose l depth '\x7b' '\x7d' ts)
    | .error f => .error f
  | v =>
    match v.toText with
    | .ok t => .ok (stringText l.asciiOnly t)
    | .error f => .error f

def itemTexts (l : Layout) (depth : Nat) : List Value → Except Fault (List Text)
  | [] => .ok []
  | v :: vs =>
    match textAt l depth v with
    | .error f => .error f
    | .ok t =>
      match itemTexts l depth vs with
      | .error f => .error f
      | .ok ts => .ok (t :: ts)

def memberTexts (l : Layout) (depth : Nat) : List (Value × Value) → Except Fault (List Text)
  | [] => .ok []
  | (k, v) :: es =>
    match nameOf k with
    | .error f => .error f
    | .ok name =>
      match textAt l depth v with
      | .error f => .error f
      | .ok t =>
        match memberTexts l depth es with
        | .error f => .error f
        | .ok ts => .ok ((stringText l.asciiOnly name ++ .char ':' :: .char ' ' :: t) :: ts)
end

/-- The text of a value. -/
def write (l : Layout) (v : Value) : Except Fault Text := textAt l 0 v

end BraceTemplate.Json
