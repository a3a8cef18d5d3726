import BraceTemplate.Error
import BraceTemplate.Value

/-!
# BraceTemplate.Reference

Operands of operators. An operand is a literal text or points into the parameters: at the next
parameter in order, or at a fixed position counted from 1. The cursor is the position of the last
parameter taken in order; resolving moves it forward and never back, also when it fails.
-/

namespace BraceTemplate

inductive Reference where
  /-- Text as written, or an operand left out. -/
  | literal (text : Option Text)
  | next
  | fixed (position : Int)
  deriving DecidableEq, Repr

/-- A computation that moves the cursor and may fail; the cursor is known in both cases. -/
abbrev Evaluation := EStateM Failure Nat

/-- What an expansion is evaluated against. -/
structure Context where
  parameters : List Value
  locale : Text
  defaultZone : Option Text

namespace Evaluation

def fail {α : Type} (e : ExpansionError) : Evaluation α := throw (.expansion e)

def ofFault {α : Type} (r : Except Fault α) : Evaluation α :=
  match r with
  | .ok a => pure a
  | .error f => throw (.fault f)

/-- Takes the next parameter and returns its position. -/
def advance : Evaluation Nat := do
  modify (· + 1)
  get

end Evaluation

namespace Context

def hasParameter (ctx : Context) (position : Int) : Bool :=
  decide (0 < position) && decide (position ≤ ctx.parameters.length)

/-- The parameter at a position that the list has. -/
def parameter? (ctx : Context) (position : Int) : Option Value :=
  if ctx.hasParameter position then ctx.parameters[(position - 1).toNat]? else none

/-- The parameter at a position; past the end there is none, and positions up to 0 count from the
end of the list, 0 being the last. -/
def parameterWrapped (ctx : Context) (position : Int) : Except Fault Value :=
  let n : Int := ctx.parameters.length
  if position > n then .ok .none
  else
    let i := if position ≤ 0 then position - 1 + n else position - 1
    if i < 0 then .error .positionOutOfRange
    else
      match ctx.parameters[i.toNat]? with
      | some v => .ok v
      | none => .error .positionOutOfRange

end Context

namespace Value

/-- A value as an integer: numbers without their fraction, other values by their text, of which the
empty one is zero. -/
def toInteger : Value → Except Failure Int
  | bool b => .ok (if b then 1 else 0)
  | int i => .ok i
  | float x =>
    if x.isNaN then .error (.fault .undefinedInteger)
    else if x.isInfinite then .error (.fault .infiniteInteger)
    else .ok x.truncate
  | v =>
    match v.toText with
    | .error f => .error (.fault f)
    | .ok [] => .ok 0
    | .ok t =>
      if Number.isIntegerText t then
        match Number.readInteger t with
        | .error f => .error (.fault f)
        | .ok i => .ok i
      else .error (.expansion (.notIntegerReference t))

end Value

namespace Reference

/-- Position 0 stands for the next parameter. -/
def ofPosition (n : Int) : Reference := if n = 0 then next else fixed n

/-- Braces around decimal digits, or around nothing, with a line feed after them if any: the digits
of such an operand. -/
def indirectDigits? : Text → Option Text
  | '{' :: t =>
    let digits := t.takeWhile Text.isDecimal
    match t.dropWhile Text.isDecimal with
    | ['}'] => some digits
    | ['}', '\n'] => some digits
    | _ => none
  | _ => none

/-- The operand that a written text stands for. -/
def parse (t : Text) : Except Fault Reference :=
  match indirectDigits? t with
  | none => .ok (literal (some t))
  | some digits =>
    match Number.readDigits digits with
    | .error f => .error f
    | .ok n => .ok (ofPosition n)

def isIndirect : Reference → Bool
  | literal _ => false
  | _ => true

/-- The value that an indirect operand points at, if the parameters reach that far. -/
def resolveValue (ctx : Context) : Reference → Evaluation (Option Value)
  | literal t => pure (t.map Value.text)
  | next => do
    let position ← Evaluation.advance
    pure (ctx.parameter? position)
  | fixed position => pure (ctx.parameter? position)

/-- A literal must be an integer; a missing parameter is zero. -/
def resolveInteger (ctx : Context) (r : Reference) : Evaluation Int :=
  match r with
  | literal t =>
    match t with
    | none => Evaluation.fail (.notIntegerLiteral none)
    | some s =>
      if Number.isIntegerText s then Evaluation.ofFault (Number.readInteger s)
      else Evaluation.fail (.notIntegerLiteral (some s))
  | r => do
    match ← r.resolveValue ctx with
    | none => pure 0
    | some v =>
      match v.toInteger with
      | .ok i => pure i
      | .error e => throw e

/-- A literal as written; a missing parameter is the empty text. -/
def resolveText (ctx : Context) (r : Reference) : Evaluation (Option Text) :=
  match r with
  | literal t => pure t
  | r => do
    match ← r.resolveValue ctx with
    | none => pure (some [])
    | some v => some <$> Evaluation.ofFault v.toText

end Reference

end BraceTemplate
