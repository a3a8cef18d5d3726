import BraceTemplate.Number.Reading
import BraceTemplate.Text.Case
import BraceTemplate.Value

/-!
# BraceTemplate.Environment

Environment variables in untyped values. A variable in a text is a dollar sign and a name between
braces, with a default behind a colon, or with a message behind a colon and a question mark.
Substituted values are not looked at again. A text that is one variable and nothing else takes the
type that its value looks like.
-/

namespace BraceTemplate

/-- Variables and their values. -/
abbrev Environment := List (Text × Text)

inductive EnvironmentError where
  /-- A variable without a default, where every variable has to be set. -/
  | notSet (name : Text)
  /-- A variable with a default, where every variable has to be set. -/
  | defaultNotAllowed (name : Text)
  | required (name message : Text)
  /-- An error in a file. -/
  | inFile (path : Text) (error : EnvironmentError)
  deriving DecidableEq, Repr

namespace EnvironmentError

def suggestion (name : Text) : Text :=
  ". Suggestion: Set the variable with 'export ".toText ++ name ++ "=value'".toText

def message : EnvironmentError → Text
  | notSet name =>
    "Required environment variable '".toText ++ name ++ "' is not set".toText ++ suggestion name
  | defaultNotAllowed name =>
    "Environment variable '".toText ++ name ++ "' is not set and strict mode is enabled".toText ++
      suggestion name
  | required name text =>
    "Environment variable substitution failed: ".toText ++
      (if text.isEmpty then "Variable ".toText ++ name ++ " is required".toText else text) ++
      suggestion name
  | inFile path error =>
    "Environment variable substitution failed in ".toText ++ path ++ ": ".toText ++ error.message

end EnvironmentError

namespace Environment

/-- What stands behind the name of a variable. -/
inductive Fallback where
  | none
  | default (mark value : Text)
  | message (text : Text)
  deriving DecidableEq, Repr

structure Variable where
  name : Text
  fallback : Fallback
  deriving DecidableEq, Repr

/-- A text is cut into variables and single characters. -/
inductive Piece where
  | char (c : CodePoint)
  | variable (v : Variable)
  deriving DecidableEq, Repr

def isNameStart (c : CodePoint) : Bool := Text.isAsciiLetter c || c = '_'

def isNameChar (c : CodePoint) : Bool := isNameStart c || Text.isAsciiDigit c

/-- What stands between the name and the closing brace, behind a colon. -/
def fallbackOf : Text → Fallback
  | '?' :: text => .message text
  | '-' :: value => .default ":-".toText value
  | value => .default [':'] value

namespace Variable

/-- A variable as it is written. -/
def source (v : Variable) : Text :=
  .char '$' :: .char '\x7b' :: v.name ++
    (match v.fallback with
      | .none => []
      | .default mark value => mark ++ value
      | .message text => ':' :: '?' :: text) ++ [.char '\x7d']

end Variable

/-- The variable whose dollar sign and opening brace have been read, and what follows it. -/
def readVariable? (t : Text) : Option (Variable × Text) :=
  let name := t.takeWhile isNameChar
  if !name.head?.any isNameStart then none
  else
    match t.dropWhile isNameChar with
    | '\x7d' :: rest => some (⟨name, .none⟩, rest)
    | ':' :: behind =>
      match behind.dropWhile (· ≠ .char '\x7d') with
      | _ :: rest => some (⟨name, fallbackOf (behind.takeWhile (· ≠ .char '\x7d'))⟩, rest)
      | [] => none
    | _ => none

/-- The pieces of a text; `skip` characters belong to a variable that has been read. -/
def piecesFrom : Nat → Text → List Piece
  | _, [] => []
  | skip + 1, _ :: t => piecesFrom skip t
  | 0, c :: t =>
    match c, t with
    | '$', '\x7b' :: rest =>
      match readVariable? rest with
      | some (v, behind) => .variable v :: piecesFrom (t.length - behind.length) t
      | none => .char c :: piecesFrom 0 t
    | _, _ => .char c :: piecesFrom 0 t

def pieces (t : Text) : List Piece := piecesFrom 0 t

/-- What a variable stands for. -/
def valueOf (env : Environment) (strict : Bool) (v : Variable) : Except EnvironmentError Text :=
  match env.lookup v.name with
  | some value => .ok value
  | none =>
    match v.fallback with
    | .none => if strict then .error (.notSet v.name) else .ok v.source
    | .message text => .error (.required v.name text)
    | .default _ value => if strict then .error (.defaultNotAllowed v.name) else .ok value

/-- Pieces with every variable replaced. -/
def substitutePieces (env : Environment) (strict : Bool) : List Piece →
    Except EnvironmentError Text
  | [] => .ok []
  | .char c :: ps =>
    match substitutePieces env strict ps with
    | .error e => .error e
    | .ok rest => .ok (c :: rest)
  | .variable v :: ps =>
    match valueOf env strict v with
    | .error e => .error e
    | .ok value =>
      match substitutePieces env strict ps with
      | .error e => .error e
      | .ok rest => .ok (value ++ rest)

def isOneVariable (ps : List Piece) : Bool :=
  match ps with
  | [.variable _] => true
  | _ => false

/-- A truth value, an integer or a fraction if the text can be read as one, and the text
otherwise. Only what holds a point or an exponent is read as a fraction. -/
def typed (t : Text) : Value :=
  let lower := Text.lower t
  if lower = "true".toText then .bool true
  else if lower = "false".toText then .bool false
  else if t.contains '.' || lower.contains 'e' then
    match Number.readBinary64? t with
    | some x => .float x
    | none => .text t
  else
    match Number.readIntegerText? t with
    | some i => .int i
    | none => .text t

def substituteText (env : Environment) (strict : Bool) (t : Text) :
    Except EnvironmentError Value :=
  let ps := pieces t
  match substitutePieces env strict ps with
  | .error e => .error e
  | .ok result => .ok (if isOneVariable ps && result ≠ t then typed result else .text result)

/-- Whether a key is one of those whose values are left as they are. -/
def isSkipped (skipped : List Text) : Value → Bool
  | .text k => skipped.contains k
  | _ => false

mutual
/-- A value with the variables in all its texts replaced. -/
def substitute (env : Environment) (strict : Bool) (skipped : List Text) :
    Value → Except EnvironmentError Value
  | .text t => substituteText env strict t
  | .list items =>
    match substituteItems env strict skipped items with
    | .error e => .error e
    | .ok items => .ok (.list items)
  | .dict entries =>
    match substituteEntries env strict skipped entries with
    | .error e => .error e
    | .ok entries => .ok (.dict entries)
  | v => .ok v

def substituteItems (env : Environment) (strict : Bool) (skipped : List Text) :
    List Value → Except EnvironmentError (List Value)
  | [] => .ok []
  | v :: vs =>
    match substitute env strict skipped v with
    | .error e => .error e
    | .ok v =>
      match substituteItems env strict skipped vs with
      | .error e => .error e
      | .ok vs => .ok (v :: vs)

def substituteEntries (env : Environment) (strict : Bool) (skipped : List Text) :
    List (Value × Value) → Except EnvironmentError (List (Value × Value))
  | [] => .ok []
  | (k, v) :: es =>
    match (if isSkipped skipped k then .ok v else substitute env strict skipped v) with
    | .error e => .error e
    | .ok v =>
      match substituteEntries env strict skipped es with
      | .error e => .error e
      | .ok es => .ok ((k, v) :: es)
end

/-! ## Names -/

/-- The variables in a text. -/
def namesOfText (t : Text) : List Text :=
  (pieces t).filterMap fun p =>
    match p with
    | .variable v => some v.name
    | .char _ => none

mutual
/-- The variables in all texts of a value. -/
def namesIn : Value → List Text
  | .text t => namesOfText t
  | .list items => namesInItems items
  | .dict entries => namesInEntries entries
  | _ => []

def namesInItems : List Value → List Text
  | [] => []
  | v :: vs => namesIn v ++ namesInItems vs

def namesInEntries : List (Value × Value) → List Text
  | [] => []
  | (_, v) :: es => namesIn v ++ namesInEntries es
end

end Environment

end BraceTemplate
