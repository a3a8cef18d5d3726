import BraceTemplate.Codec.Base64
import BraceTemplate.Codec.Percent
import BraceTemplate.Body.Basic
import BraceTemplate.Packages
import BraceTemplate.Printf.Format
import BraceTemplate.Text.Case

/-!
# BraceTemplate.Operator.Apply

What each operator does to a working value. The value is written as text first, except for printf
and dates, which look at its kind; then the operands are resolved from left to right. The group of
an extraction is resolved only if the pattern matches.
-/

namespace BraceTemplate

namespace Evaluation

def ofExcept {α : Type} (r : Except Failure α) : Evaluation α :=
  match r with
  | .ok a => pure a
  | .error e => throw e

end Evaluation

namespace Value

/-- The moment that a value stands for: a moment, taken in universal time if it has no offset, or
an integer of milliseconds since 1 January 1970. Other values stand for none. -/
def toMoment? : Value → Except Fault (Option Calendar.Moment)
  | moment m =>
    match m.offset with
    | some _ => .ok (some m)
    | Option.none =>
      if m.clock < Calendar.microsPerDay then .error .firstDayOfCalendar
      else .ok (some { m with offset := some 0 })
  | int ms =>
    let clock := Calendar.epochClock + ms * 1000
    if Calendar.Moment.inCalendar clock then .ok (some ⟨clock, some 0⟩)
    else .error .instantOutOfRange
  | _ => .ok Option.none

end Value

namespace Calendar

/-- The zone with a name; an empty name stands for the default zone, and without one for universal
time. -/
def resolveZone (name default : Option Text) : Except ExpansionError Zone :=
  let given : Option Text → Option Text := fun n => n.filter (!·.isEmpty)
  match (given name).or (given default) with
  | none => .ok Zone.utc
  | some n =>
    match Zone.find? n with
    | some zone => .ok zone
    | none => .error (.unknownZone n)

end Calendar

namespace Operator

/-- The characters from one bound up to another. Bounds beyond the text are moved to its ends, and
a negative second bound counts from the end, -1 being the end itself. -/
def sliceText (t : Text) (start stop : Int) : Text :=
  let length : Int := t.length
  let start := max 0 (min start length)
  let stop := if stop < 0 then max 0 (length + 1 + stop) else min stop length
  Text.slice start.toNat (max stop start).toNat t

/-- A number of characters from a bound on, which is moved to the last character if it lies behind
it. -/
def sliceLengthText (t : Text) (start count : Int) : Text :=
  let length : Int := t.length
  let start := max 0 (min start (length - 1))
  let stop := min (start + max 0 count) length
  Text.slice start.toNat stop.toNat t

/-- The group that a text names: decimal digits are its number. -/
def groupKey (t : Text) : Except Fault Pattern.GroupKey :=
  if t.all Text.isDecimal then
    match Number.readDigits t with
    | .ok n => .ok (.number n)
    | .error f => .error f
  else .ok (.name t)

/-- What a reference gives as text, which may not be absent. -/
def requireText (t : Option Text) : Evaluation Text :=
  match t with
  | some t => pure t
  | none => throw (.fault .absentText)

/-- How a pattern that is not compiled ends an extraction. -/
def compileFailure (written : Text) : Pattern.CompileFailure → Failure
  | .invalid reason position => .expansion (.invalidExtraction written reason position)
  | .fault f => .fault f

def applyExtract [Packages] (ctx : Context) (pattern group : Reference) (v : Value) :
    Evaluation Text := do
  let text ← Evaluation.ofFault v.toText
  let written ← requireText (← pattern.resolveText ctx)
  match Packages.engine.compile written with
  | .error e => throw (compileFailure written e)
  | .ok compiled =>
    match Packages.engine.search compiled text with
    | none => pure []
    | some found => do
      let name := match ← group.resolveText ctx with
        | none => ['0']
        | some [] => ['0']
        | some n => n
      let key ← Evaluation.ofFault (groupKey name)
      pure ((Packages.engine.captured? compiled found key).getD [])

def applyDate [Packages] (ctx : Context) (pattern zone : Reference) (v : Value) :
    Evaluation Text := do
  let written := match ← pattern.resolveText ctx with
    | none => Directive.defaultFormat
    | some [] => Directive.defaultFormat
    | some p => p
  match Calendar.resolveZone (← zone.resolveText ctx) ctx.defaultZone with
  | .error e => Evaluation.fail e
  | .ok z => do
    match ← Evaluation.ofFault v.toMoment? with
    | none => pure []
    | some m => Evaluation.ofExcept (Calendar.formatDate m written z ctx.locale)

/-- Applies a function to the text of a value. -/
def onText (f : Text → Text) (v : Value) : Evaluation Text := do
  pure (f (← Evaluation.ofFault v.toText))

/-- Encodes the text of a value, which fails on a text that has no encoded form. -/
def encodeText (encode : Text → Except Fault Text) (v : Value) : Evaluation Text := do
  Evaluation.ofFault (encode (← Evaluation.ofFault v.toText))

def applyText [Packages] (ctx : Context) (o : Operator) (v : Value) : Evaluation Text :=
  match o with
  | trim => onText (Text.strip Text.isBlank) v
  | lower => onText Text.lower v
  | upper => onText Text.upper v
  | urlEncode => encodeText Codec.Percent.encode v
  | urlDecode => do
    match Codec.Percent.decode (← Evaluation.ofFault v.toText) with
    | .ok t => pure t
    | .error e => Evaluation.fail e
  | base64Encode => encodeText Codec.Base64.encode v
  | base64Decode => onText (fun t => (Codec.Base64.decode? t).getD t) v
  | slice start stop => do
    let text ← Evaluation.ofFault v.toText
    let a ← start.resolveInteger ctx
    let b ← stop.resolveInteger ctx
    pure (sliceText text a b)
  | sliceLength start length => do
    let text ← Evaluation.ofFault v.toText
    let a ← start.resolveInteger ctx
    let n ← length.resolveInteger ctx
    pure (sliceLengthText text a n)
  | extract pattern group => applyExtract ctx pattern group v
  | printf specifier => do
    let spec ← requireText (← specifier.resolveText ctx)
    Evaluation.ofExcept (Printf.format spec v)
  | date pattern zone => applyDate ctx pattern zone v

/-- The working value behind an operator, which is always a text. -/
def apply [Packages] (ctx : Context) (o : Operator) (v : Value) : Evaluation Value := do
  pure (.text (← o.applyText ctx v))

/-- Operators one after the other. -/
def applyAll [Packages] (ctx : Context) : List Operator → Value → Evaluation Value
  | [], v => pure v
  | o :: os, v => do applyAll ctx os (← o.apply ctx v)

end Operator

end BraceTemplate
