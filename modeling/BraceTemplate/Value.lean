import BraceTemplate.Calendar.Moment
import BraceTemplate.Number.Decimal
import BraceTemplate.Text.Quoted

/-!
# BraceTemplate.Value

Typed parameters and working values, and their text. At the top level a text stands for itself and
an absent value for the empty text; inside a list or a mapping every value is written so that its
kind can be seen.
-/

namespace BraceTemplate

inductive Value where
  | none
  | bool (b : Bool)
  | int (i : Int)
  | float (x : Number.Binary64)
  | text (t : Text)
  | moment (m : Calendar.Moment)
  | date (d : Calendar.Date)
  | octets (bytes : List Nat)
  | list (items : List Value)
  | tuple (items : List Value)
  | set (items : List Value)
  | dict (entries : List (Value × Value))
  deriving Inhabited

namespace Value

/-- The name of a value's kind in error messages. -/
def kindName : Value → String
  | none => "NoneType"
  | bool _ => "bool"
  | int _ => "int"
  | float _ => "float"
  | text _ => "str"
  | moment _ => "datetime"
  | date _ => "date"
  | octets _ => "bytes"
  | list _ => "list"
  | tuple _ => "tuple"
  | set _ => "set"
  | dict _ => "dict"

def boolText (b : Bool) : Text := (if b then "True" else "False").toText

/-- Numbers between parentheses, separated by commas. -/
def callText (name : String) (arguments : List Text) : Text :=
  name.toText ++ .char '(' :: Text.join ", ".toText arguments ++ [.char ')']

def dateLiteral (d : Calendar.Date) : Text :=
  callText "datetime.date" [Number.natText d.year, Number.natText d.month, Number.natText d.day]

def offsetLiteral (offset : Int) : Text :=
  if offset = 0 then "datetime.timezone.utc".toText
  else
    let part : String → Int → List Text := fun name n =>
      if n = 0 then [] else [name.toText ++ Number.intText n]
    callText "datetime.timezone"
      [callText "datetime.timedelta"
        (part "days=" (offset / Calendar.microsPerDay) ++
          part "seconds=" (offset % Calendar.microsPerDay / 1000000) ++
          part "microseconds=" (offset % 1000000))]

def momentLiteral (m : Calendar.Moment) : Text :=
  let d := m.date
  let fields := [d.year, d.month, d.day, m.hour, m.minute] ++
    (if m.second = 0 ∧ m.micro = 0 then [] else [m.second]) ++
    (if m.micro = 0 then [] else [m.micro])
  callText "datetime.datetime"
    (fields.map Number.natText ++
      (match m.offset with
        | Option.none => []
        | some o => ["tzinfo=".toText ++ offsetLiteral o]))

mutual
/-- The text of a value inside a list or a mapping. -/
def literal : Value → Except Fault Text
  | none => .ok "None".toText
  | bool b => .ok (boolText b)
  | int i => Number.decimalText i
  | float x => .ok x.text
  | text t => .ok (Text.quoted t)
  | moment m => .ok (momentLiteral m)
  | date d => .ok (dateLiteral d)
  | octets bytes => .ok (Text.quotedOctets bytes)
  | list items =>
    match literals items with
    | .error f => .error f
    | .ok ts => .ok (.char '[' :: Text.join ", ".toText ts ++ [.char ']'])
  | tuple items =>
    match literals items with
    | .error f => .error f
    | .ok ts =>
      .ok (.char '(' :: Text.join ", ".toText ts ++ (if ts.length = 1 then ",)" else ")").toText)
  | set items =>
    match literals items with
    | .error f => .error f
    | .ok ts =>
      .ok (if ts.isEmpty then "set()".toText
        else .char '\x7b' :: Text.join ", ".toText ts ++ [.char '\x7d'])
  | dict entries =>
    match entryLiterals entries with
    | .error f => .error f
    | .ok ts => .ok (.char '\x7b' :: Text.join ", ".toText ts ++ [.char '\x7d'])

def literals : List Value → Except Fault (List Text)
  | [] => .ok []
  | v :: vs =>
    match literal v with
    | .error f => .error f
    | .ok t =>
      match literals vs with
      | .error f => .error f
      | .ok ts => .ok (t :: ts)

def entryLiterals : List (Value × Value) → Except Fault (List Text)
  | [] => .ok []
  | (k, v) :: es =>
    match literal k with
    | .error f => .error f
    | .ok kt =>
      match literal v with
      | .error f => .error f
      | .ok vt =>
        match entryLiterals es with
        | .error f => .error f
        | .ok ts => .ok ((kt ++ .char ':' :: .char ' ' :: vt) :: ts)
end

/-- The text of a parameter or a working value. -/
def toText : Value → Except Fault Text
  | none => .ok []
  | text t => .ok t
  | moment m => .ok (m.text ' ')
  | date d => .ok d.text
  | v => literal v

end Value

end BraceTemplate
