import BraceTemplate.CommandLine.Usage

/-!
# BraceTemplate.CommandLine.Arguments

Arguments as options and operands. An option's value stands behind an equals sign or is the next
argument, whatever it looks like; behind two dashes alone there are only operands.
-/

namespace BraceTemplate.CommandLine

structure Arguments where
  /-- The options with their values in order; a flag has the empty text. -/
  options : List (Text × Text)
  operands : List Text
  deriving DecidableEq, Repr

namespace Arguments

def addOption (a : Arguments) (name value : Text) : Arguments :=
  { a with options := a.options ++ [(name, value)] }

/-- The last value of an option. -/
def value? (a : Arguments) (name : String) : Option Text :=
  (a.options.reverse.find? fun (o : Text × Text) => o.1 = name.toText).map (·.2)

def hasFlag (a : Arguments) (name : String) : Bool := (a.value? name).isSome

/-- The names of the options in the order in which each is first given. -/
def names (a : Arguments) : List Text :=
  a.options.foldl (fun (done : List Text) (o : Text × Text) =>
    if done.contains o.1 then done else done ++ [o.1]) []

/-- An option's value among the next arguments, and the rest. -/
def takeValue (option : Text) : List Text → Except UsageCause (Text × List Text)
  | [] => .error (.argumentRequired option)
  | v :: rest => .ok (v, rest)

/-- Reads an option with two dashes, with what stands behind its equals sign. -/
def readLong (kinds : List OptionKind) (name : Text) (given : Option Text) (rest : List Text)
    (a : Arguments) : Except UsageCause (Arguments × List Text) :=
  match kinds.find? fun k => k.name = name with
  | none => .error (.noSuchOption name (closeWords name (kinds.map (·.name))))
  | some k =>
    match k.takesValue, given with
    | true, some v => .ok (a.addOption k.name v, rest)
    | true, none =>
      match takeValue name rest with
      | .ok (v, rest) => .ok (a.addOption k.name v, rest)
      | .error e => .error e
    | false, some _ => .error (.takesNoValue name)
    | false, none => .ok (a.addOption k.name [], rest)

/-- Reads letters of options behind one dash. The value of an option is the rest of the letters, if
there are any. -/
def readLetters (kinds : List OptionKind) (rest : List Text) (a : Arguments) :
    Text → Except UsageCause (Arguments × List Text)
  | [] => .ok (a, rest)
  | c :: cs =>
    match kinds.find? fun k => k.letter = some c with
    | none => .error (.noSuchOption ['-', c] [])
    | some k =>
      if k.takesValue then
        if cs.isEmpty then
          match takeValue ['-', c] rest with
          | .ok (v, rest) => .ok (a.addOption k.name v, rest)
          | .error e => .error e
        else .ok (a.addOption k.name cs, rest)
      else readLetters kinds rest (a.addOption k.name []) cs

/-- Reads an option and its value. -/
def readOption (kinds : List OptionKind) (argument : Text) (rest : List Text) (a : Arguments) :
    Except UsageCause (Arguments × List Text) :=
  match argument with
  | '-' :: '-' :: _ =>
    let name := argument.takeWhile (· ≠ .char '=')
    let given :=
      if name.length < argument.length then some (argument.drop (name.length + 1)) else none
    readLong kinds name given rest a
  | _ :: letters => readLetters kinds rest a letters
  | [] => .ok (a, rest)

def isOption : Text → Bool
  | '-' :: _ :: _ => true
  | _ => false

/-- Reads arguments; options may stand between operands or only before them. -/
def readFrom (kinds : List OptionKind) (mixed : Bool) :
    Nat → List Text → Arguments → Except UsageCause Arguments
  | 0, rest, a => .ok { a with operands := a.operands ++ rest }
  | _, [], a => .ok a
  | fuel + 1, argument :: rest, a =>
    if argument = "--".toText then .ok { a with operands := a.operands ++ rest }
    else if isOption argument then
      match readOption kinds argument rest a with
      | .ok (a, rest) => readFrom kinds mixed fuel rest a
      | .error e => .error e
    else if mixed then
      readFrom kinds mixed fuel rest { a with operands := a.operands ++ [argument] }
    else .ok { a with operands := a.operands ++ argument :: rest }

def read (kinds : List OptionKind) (mixed : Bool) (arguments : List Text) :
    Except UsageCause Arguments :=
  readFrom kinds mixed arguments.length arguments ⟨[], []⟩

end Arguments

end BraceTemplate.CommandLine
