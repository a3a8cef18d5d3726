import BraceTemplate.Error
import BraceTemplate.Number.Hexadecimal
import BraceTemplate.Printf.Hash
import BraceTemplate.Printf.Specifier
import BraceTemplate.Text.Case

/-!
# BraceTemplate.Printf.Format

Formatting of a typed value by a conversion specifier. General conversions write any value and take
the left flag only; integer conversions want an integer and no precision; floating point
conversions want a floating point number. Negative integers are written as machine words in the
octal and hexadecimal conversions.
-/

namespace BraceTemplate.Printf

/-- Widths up to this can be addressed. -/
def maxWidth : Nat := 0x7fffffffffffffff

def maxPrecision : Nat := 0x7fffffff

def conversionError {α : Type} (e : ConversionError) : Except Failure α :=
  .error (.expansion (.conversion e))

def ofFault {α : Type} : Except Fault α → Except Failure α
  | .ok a => .ok a
  | .error f => .error (.fault f)

/-- Padding of a finished text: on the right with the left flag, otherwise on the left. -/
def pad (left : Bool) (width : Text) (t : Text) : Except Failure Text :=
  if width.isEmpty then .ok t
  else
    match Number.readDigits width with
    | .error f => .error (.fault f)
    | .ok n =>
      if n > maxWidth then .error (.fault .widthTooLarge)
      else .ok (if left then Text.padRight n t else Text.padLeft n t)

/-- The character that a value stands for: itself, or the one with that code point. -/
def characterText (spec : Text) (v : Value) : Except Failure Text :=
  match v with
  | .text [c] => .ok [c]
  | .int i =>
    if 0 ≤ i ∧ i < 0x110000 then .ok [CodePoint.ofNat i.toNat]
    else
      match Number.decimalText i with
      | .error f => .error (.fault f)
      | .ok _ => conversionError (.invalidCodePoint spec i)
  | v => conversionError (.characterRequired v.kindName)

/-- The text of a general conversion before precision and padding. -/
def generalValue (spec : Text) (conversion : Conversion) (v : Value) : Except Failure Text :=
  match conversion with
  | .string => ofFault v.toText
  | .boolean =>
    match v with
    | .none => .ok "false".toText
    | .bool false => .ok "false".toText
    | _ => .ok "true".toText
  | .hash =>
    match v with
    | .none => .ok "null".toText
    | v =>
      match hashValue v with
      | .error f => .error (.fault f)
      | .ok n => .ok (.digits 16 n)
  | _ => characterText spec v

def formatGeneral (raw : Text) (s : Specifier) (v : Value) : Except Failure Text :=
  match s.flag with
  | some f =>
    if f = .left then body else conversionError (.flagNotApplicable [f.toChar] s.letter raw)
  | none => body
where
  body : Except Failure Text :=
    match generalValue raw s.conversion v with
    | .error e => .error e
    | .ok t =>
      match s.precision with
      | none => finish t
      | some p =>
        if s.conversion = .character then conversionError (.precisionNotAllowed raw)
        else
          match Number.readDigits p with
          | .error f => .error (.fault f)
          | .ok n => finish (t.take n)
  finish (t : Text) : Except Failure Text :=
    pad (s.flag = some .left) s.width (if s.isUpper then Text.upper t else t)

/-- A negative integer as a word of 32 bits, or of 64 if it needs one; others are unchanged. -/
def machineWord (i : Int) : Int :=
  if i < 0 then (if -0x80000000 ≤ i then i + 0x100000000 else i + 0x10000000000000000) else i

/-- Layout of a number: how the sign of a number not below zero is written, what fills the field
and on which side. -/
structure Layout where
  signIfPositive : Text
  zeroFill : Bool
  left : Bool
  alternate : Bool

/-- The layout that a flag asks for, and the digits of the width that it leaves: zeros in front of
them ask for zeros as fill. -/
def layoutOf (flag : Option Flag) (width : Text) : Layout × Text :=
  let zeros := flag = some .zero || width.head? = some (.char '0')
  (⟨if flag = some .plus then ['+'] else if flag = some .space then [' '] else [], zeros,
    flag = some .left, flag = some .alternate⟩, width.dropWhile (· = '0'))

/-- Widths and precisions of numbers are ASCII digits within a limit. -/
def readAsciiNumber (limit : Nat) (digits : Text) : Except Failure Nat :=
  if !digits.all Text.isAsciiDigit then .error (.fault .malformedSpecifier)
  else
    let n := Number.digitsValue digits
    if n > limit then .error (.fault .malformedSpecifier) else .ok n

/-- Sign, mark of the base and digits in a field. -/
def layOut (l : Layout) (width : Nat) (negative : Bool) (mark digits : Text) : Text :=
  let sign : Text := if negative then ['-'] else l.signIfPositive
  let fill := width - (sign ++ mark ++ digits).length
  if l.left then sign ++ mark ++ digits ++ List.replicate fill (.char ' ')
  else if l.zeroFill then sign ++ mark ++ List.replicate fill (.char '0') ++ digits
  else List.replicate fill (.char ' ') ++ sign ++ mark ++ digits

/-- Digits of an integer's magnitude in the conversion's base. -/
def integerDigits (s : Specifier) (i : Int) : Except Failure Text :=
  match s.conversion with
  | .octal => .ok (.digits 8 i.natAbs)
  | .hexadecimal =>
    let digits := Text.digits 16 i.natAbs
    .ok (if s.isUpper then digits.map CodePoint.toUpper else digits)
  | _ =>
    match Number.decimalText i.natAbs with
    | .ok digits => .ok digits
    | .error f => .error (.fault f)

/-- A number between parentheses if it is below zero, otherwise its digits; padded with spaces. -/
def parenthesized (negative : Bool) (width digits : Text) : Except Failure Text :=
  pad false width (if negative then .char '(' :: digits ++ [.char ')'] else digits)

def formatInteger (s : Specifier) (i : Int) : Except Failure Text :=
  let value := if s.conversion = .decimal then i else machineWord i
  match integerDigits s value with
  | .error e => .error e
  | .ok digits =>
    let negative := decide (value < 0)
    match s.flag with
    | some .parenthesis => parenthesized negative s.width digits
    | some .comma =>
      if s.conversion = .decimal then
        let grouped := Number.groupThousands digits
        pad false s.width (if negative then '-' :: grouped else grouped)
      else .error (.fault .groupingNotAllowed)
    | flag =>
      if s.conversion = .octal ∧ flag = some .alternate then
        pad false s.width ('0' :: (if negative then '-' :: digits else digits))
      else
        let (layout, width) := layoutOf flag s.width
        match readAsciiNumber maxWidth width with
        | .error e => .error e
        | .ok n =>
          let mark : Text :=
            if layout.alternate ∧ s.conversion = .hexadecimal then
              ['0', if s.isUpper then 'X' else 'x']
            else []
          .ok (layOut layout n negative mark digits)

/-- Digits of a floating point number's magnitude, with a precision of six unless given. -/
def floatDigits (s : Specifier) (precision : Nat) (keepPoint : Bool) (x : Number.Binary64) : Text :=
  let digits : Text :=
    if x.isNaN then "nan".toText
    else if x.isInfinite then "inf".toText
    else
      match s.conversion with
      | .fixed => Number.fixedText x.numerator x.denominator precision keepPoint
      | .general => Number.generalText x.numerator x.denominator precision
      | _ => Number.scientificText x.numerator x.denominator precision keepPoint
  if s.isUpper then digits.map CodePoint.toUpper else digits

/-- Commas in the part of a number before its point or exponent. -/
def groupWhole (t : Text) : Text :=
  Number.groupThousands (t.takeWhile Text.isAsciiDigit) ++ t.dropWhile Text.isAsciiDigit

def formatFloat (s : Specifier) (x : Number.Binary64) : Except Failure Text :=
  let negative := x.negative && !x.isNaN
  match s.flag with
  | some .parenthesis =>
    match plainPrecision with
    | .error e => .error e
    | .ok p => parenthesized x.isNegative s.width (floatDigits s p false x)
  | some .comma =>
    match plainPrecision with
    | .error e => .error e
    | .ok p =>
      let grouped := groupWhole (floatDigits s p false x)
      pad false s.width (if negative then '-' :: grouped else grouped)
  | flag =>
    let (layout, width) := layoutOf flag s.width
    match readAsciiNumber maxWidth width with
    | .error e => .error e
    | .ok n =>
      match s.precision with
      | none => .ok (layOut layout n negative [] (floatDigits s 6 layout.alternate x))
      | some p =>
        match readAsciiNumber maxPrecision p with
        | .error e => .error e
        | .ok p => .ok (layOut layout n negative [] (floatDigits s p layout.alternate x))
where
  /-- Here the digits of a precision may be of any script. -/
  plainPrecision : Except Failure Nat :=
    match s.precision with
    | none => .ok 6
    | some p =>
      let n := Number.digitsValue p
      if n > maxPrecision then .error (.fault .malformedSpecifier) else .ok n

def formatHexFloat (s : Specifier) (x : Number.Binary64) : Except Failure Text :=
  pad (s.flag = some .left) s.width (if s.isUpper then Text.upper x.hexText else x.hexText)

/-- Formatting by a parsed specifier, whose text is needed for messages. -/
def formatWith (raw : Text) (s : Specifier) (v : Value) : Except Failure Text :=
  match s.conversion with
  | .decimal => integer
  | .octal => integer
  | .hexadecimal => integer
  | .scientific => float
  | .fixed => float
  | .general => float
  | .hexFloat => float
  | _ => formatGeneral raw s v
where
  integer : Except Failure Text :=
    match v with
    | .int i =>
      if s.precision.isSome then conversionError (.precisionNotAllowed raw) else formatInteger s i
    | v => conversionError (.integerRequired s.letter v.kindName)
  float : Except Failure Text :=
    match v with
    | .float x =>
      if s.conversion = .general ∧ s.flag = some .alternate then
        conversionError (.flagNotApplicable ['#'] s.letter raw)
      else if s.conversion = .hexFloat then formatHexFloat s x
      else formatFloat s x
    | v => conversionError (.floatRequired s.letter v.kindName)

def format (spec : Text) (v : Value) : Except Failure Text :=
  match Specifier.parse? spec with
  | none => conversionError (.unsupportedSpecifier spec)
  | some s => formatWith spec s v

end BraceTemplate.Printf
