import BraceTemplate.Expansion

/-!
# BraceTemplate.Log

What is noted while jobs are loaded and templates are tokenized and expanded. A note has a level,
and only notes from a level up are written.
-/

namespace BraceTemplate

inductive Note where
  | jobLoaded (sets : Nat)
  /-- A brace that opens no token. -/
  | strayBrace (offset : Nat)
  /-- Text that is kept because it is not Base64. -/
  | notBase64 (text : Text)
  /-- A value that stands for no moment. -/
  | notMoment (kind : String)
  | setFailed (index : Nat) (error : ExpansionError)
  deriving DecidableEq, Repr

namespace Note

def level : Note → LogLevel
  | jobLoaded _ => .info
  | strayBrace _ => .debug
  | notBase64 _ => .debug
  | notMoment _ => .debug
  | setFailed _ _ => .warning

/-- The part of the program that a note comes from. -/
def origin : Note → String
  | jobLoaded _ => "expander.config.loader"
  | strayBrace _ => "expander.templates.scanner"
  | notBase64 _ => "expander.templates.operators"
  | notMoment _ => "expander.templates.operators"
  | setFailed _ _ => "expander.templates.renderer"

def message : Note → Text
  | jobLoaded sets => "Loaded job with ".toText ++ Number.natText sets ++ " parameter set(s)".toText
  | strayBrace offset =>
    "Brace at offset ".toText ++ Number.natText offset ++
      " is not a token, keeping it as text".toText
  | notBase64 text =>
    "Input is not valid base64, passing through: ".toText ++ Text.quoted (text.take 50)
  | notMoment kind => "Cannot format ".toText ++ kind.toText ++ " as a date".toText
  | setFailed index error =>
    "Parameter set ".toText ++ Number.natText index ++ " failed: ".toText ++ error.message

/-- A note as a line of the log. -/
def line (n : Note) : Text :=
  n.level.name.toText ++ .char ' ' :: n.origin.toText ++ .char ':' :: .char ' ' :: n.message ++
    [.char '\n']

end Note

/-- The notes from a level up, as lines. -/
def logText (least : LogLevel) (notes : List Note) : Text :=
  (notes.filter fun n => decide (least.weight ≤ n.level.weight)).flatMap Note.line

namespace Trace

/-- The braces of literal text that begins at an offset. -/
def literalNotes (offset : Nat) : Text → List Note
  | [] => []
  | c :: t =>
    (if c = '\x7b' then [.strayBrace offset] else []) ++ literalNotes (offset + 1) t

/-- What an operator notes about the value that it has been applied to. -/
def operatorNotes (o : Operator) (v : Value) : List Note :=
  match o with
  | .base64Decode =>
    match v.toText with
    | .ok t => if (Codec.Base64.decode? t).isNone then [.notBase64 t] else []
    | .error _ => []
  | .date _ _ =>
    match v.toMoment? with
    | .ok none => [.notMoment v.kindName]
    | _ => []
  | _ => []

/-- The notes of operators up to one that fails. -/
def operatorsNotes (ctx : Context) : List Operator → Value → Nat → List Note
  | [], _, _ => []
  | o :: os, v, cursor =>
    match (o.apply ctx v).run cursor with
    | .error _ _ => []
    | .ok w cursor => operatorNotes o v ++ operatorsNotes ctx os w cursor

def bodyNotes (ctx : Context) (clock : Calendar.Moment) (b : Body) (cursor : Nat) : List Note :=
  match (Body.baseValue ctx clock b.base).run cursor with
  | .error _ _ => []
  | .ok v cursor => operatorsNotes ctx b.operators v cursor

/-- The notes of tokens up to one that fails, the first token standing at an offset. -/
def tokensNotes (ctx : Context) (clock : Calendar.Moment) : Nat → List Token → Nat → List Note
  | _, [], _ => []
  | offset, t :: ts, cursor =>
    let next := offset + t.source.length
    match t with
    | .literal text => literalNotes offset text ++ tokensNotes ctx clock next ts cursor
    | .replacement escape body =>
      let own := if escape = .verbatim then [] else bodyNotes ctx clock body cursor
      match (Token.replace ctx clock escape body).run cursor with
      | .error _ _ => own
      | .ok _ cursor => own ++ tokensNotes ctx clock next ts cursor
    | _ => tokensNotes ctx clock next ts cursor

/-- The notes of tokenizing a template. -/
def scanNotes (template : Text) : List Note :=
  let step : List Note × Nat → Token → List Note × Nat := fun done t =>
    match t with
    | .literal text => (done.1 ++ literalNotes done.2 text, done.2 + text.length)
    | t => (done.1, done.2 + t.source.length)
  ((scan template).tokens.foldl step ([], 0)).1

/-- The notes of an expansion. -/
def expansionNotes (settings : Settings) (clock : Calendar.Moment) (template : Text)
    (parameters : List Value) : List Note :=
  tokensNotes (settings.context parameters) clock 0 (scan template).tokens 0

end Trace

end BraceTemplate
