import BraceTemplate.Block
import BraceTemplate.Operator.Apply
import BraceTemplate.Settings
import BraceTemplate.Token

/-!
# BraceTemplate.Expansion

Expanding a template: literal text is copied, replacements are evaluated from left to right with
one cursor, and markers open and close blocks.
-/

namespace BraceTemplate

variable [Packages]

namespace Body

/-- The value that a body starts from; a parameter that the list does not have is empty text. -/
def baseValue (ctx : Context) (clock : Calendar.Moment) (b : Base) : Evaluation Value :=
  match b with
  | .clock => pure (.moment clock)
  | .next => do
    let position ← Evaluation.advance
    pure ((ctx.parameter? position).getD (.text []))
  | .position n => pure ((ctx.parameter? n).getD (.text []))

/-- The text of a body. -/
def evaluate (ctx : Context) (clock : Calendar.Moment) (b : Body) : Evaluation Text := do
  let v ← baseValue ctx clock b.base
  let result ← Operator.applyAll ctx b.operators v
  Evaluation.ofFault result.toText

end Body

namespace Token

/-- What a replacement gives. -/
def replace (ctx : Context) (clock : Calendar.Moment) (escape : Escape) (body : Body) :
    Evaluation Text :=
  match escape with
  | .verbatim => pure (.char '\x7b' :: body.raw ++ [.char '\x7d'])
  | .plain => body.evaluate ctx clock
  | .backslashed => do pure ('\\' :: (← body.evaluate ctx clock))

/-- The block behind a token. -/
def run (ctx : Context) (clock : Calendar.Moment) (t : Token) (b : Block) : Evaluation Block :=
  match t with
  | .literal text => pure (b.append text)
  | .blockOpen => pure b.opened
  | .blockClose => pure b.closed
  | .replacement escape body => do
    let result ← replace ctx clock escape body
    pure ((b.append result).record result)

/-- The block behind a list of tokens. -/
def runAll (ctx : Context) (clock : Calendar.Moment) : List Token → Block → Evaluation Block
  | [], b => pure b
  | t :: ts, b => do runAll ctx clock ts (← t.run ctx clock b)

end Token

namespace Settings

def context (s : Settings) (parameters : List Value) : Context :=
  ⟨parameters, s.locale, s.defaultZone⟩

end Settings

/-- The text of a template for a list of parameters. -/
def expand (settings : Settings) (clock : Calendar.Moment) (template : Text)
    (parameters : List Value) : Except Failure Text :=
  let s := scan template
  match (Token.runAll (settings.context parameters) clock s.tokens Block.start).run 0 with
  | .error e _ => .error e
  | .ok block _ =>
    match s.fault with
    | some f => .error (.fault f)
    | none => .ok block.finished.buffer.text

end BraceTemplate
