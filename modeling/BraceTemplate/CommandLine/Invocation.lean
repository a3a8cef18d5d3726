import BraceTemplate.CommandLine.Arguments
import BraceTemplate.Report

/-!
# BraceTemplate.CommandLine.Invocation

What a command line asks for. The values of options are looked at in the order in which they are
given, then the operands.
-/

namespace BraceTemplate.CommandLine

inductive OutputFormat where
  | text
  | json
  | jsonLines
  deriving DecidableEq, Repr

structure ExpandRequest where
  template : Text
  parameters : List Text
  /-- Whether parameters are read as JSON. -/
  asJson : Bool
  zone : Option Text
  locale : Text
  deriving DecidableEq, Repr

structure RenderRequest where
  path : Text
  output : Option Text
  format : OutputFormat
  deriving DecidableEq, Repr

structure ValidateRequest where
  template : Text
  level : ReportLevel
  format : OutputFormat
  deriving DecidableEq, Repr

inductive Request where
  | expand (r : ExpandRequest)
  | render (r : RenderRequest)
  | validate (r : ValidateRequest)
  | operators
  deriving DecidableEq, Repr

inductive Invocation where
  | version
  | help (command : Option Command)
  /-- A command line without arguments. -/
  | nothing
  | request (logLevel : Option LogLevel) (r : Request)
  deriving DecidableEq, Repr

namespace Invocation

/-- Values of an option, of which one has to be given. -/
structure Choice where
  option : String
  values : List String

def logLevels : Choice := ⟨"--log-level", ["debug", "info", "warning", "error", "critical"]⟩

def renderFormats : Choice := ⟨"--format", ["text", "json", "jsonl"]⟩

def validateFormats : Choice := ⟨"--format", ["text", "json"]⟩

def validateLevels : Choice := ⟨"--level", ["permissive", "standard", "strict"]⟩

def choicesOf : Command → List Choice
  | .render => [renderFormats]
  | .validate => [validateLevels, validateFormats]
  | _ => []

/-- Checks the value of an option that has choices. -/
def checkChoice (choices : List Choice) (anyCase : Bool) (a : Arguments) (name : Text) :
    Except UsageCause Unit :=
  match choices.find? fun c => c.option.toText = name with
  | none => .ok ()
  | some c =>
    match a.value? c.option with
    | none => .ok ()
    | some v =>
      let written := if anyCase then v.map CodePoint.toLower else v
      if c.values.any fun w => w.toText = written then .ok ()
      else .error (.notListed name v c.values)

/-- Checks the options in order. -/
def checkChoices (choices : List Choice) (anyCase : Bool) (a : Arguments) :
    List Text → Except UsageCause Unit
  | [] => .ok ()
  | name :: names =>
    match checkChoice choices anyCase a name with
    | .error e => .error e
    | .ok _ => checkChoices choices anyCase a names

def formatOf (t : Option Text) : OutputFormat :=
  match t with
  | none => .text
  | some t =>
    if t = "json".toText then .json else if t = "jsonl".toText then .jsonLines else .text

def noExtra (behind : List Text) (r : Request) : Except UsageCause Request :=
  if behind.isEmpty then .ok r else .error (.extraArguments behind)

/-- The request of a command whose options have been checked. -/
def requestOf (exists? : Text → Bool) (a : Arguments) : Command → Except UsageCause Request
  | .expand =>
    match a.operands with
    | [] => .error (.missingArgument "TEMPLATE")
    | template :: parameters =>
      .ok (.expand ⟨template, parameters, a.hasFlag "--json", a.value? "--timezone",
        (a.value? "--locale").getD ({} : Settings).locale⟩)
  | .render =>
    match a.operands with
    | [] => .error (.missingArgument "JOB_PATH")
    | path :: behind =>
      if exists? path then
        noExtra behind (.render ⟨path, a.value? "--output", formatOf (a.value? "--format")⟩)
      else .error (.noSuchPath "JOB_PATH" path)
  | .validate =>
    match a.operands with
    | [] => .error (.missingArgument "TEMPLATE")
    | template :: behind =>
      let level := ((a.value? "--level").bind ReportLevel.ofName?).getD .standard
      noExtra behind (.validate ⟨template, level, formatOf (a.value? "--format")⟩)
  | .operators => noExtra a.operands .operators

/-- Reads the arguments behind a command's name. -/
def readCommand (exists? : Text → Bool) (logLevel : Option LogLevel) (c : Command)
    (arguments : List Text) : Except UsageCause Invocation :=
  match Arguments.read c.options true arguments with
  | .error e => .error e
  | .ok a =>
    if a.hasFlag "--help" then .ok (.help (some c))
    else
      match checkChoices (choicesOf c) false a a.names with
      | .error e => .error e
      | .ok _ =>
        match requestOf exists? a c with
        | .error e => .error e
        | .ok r => .ok (.request logLevel r)

/-- What the program's own options ask for, if they leave no command to run. -/
def readProgramOptions (a : Arguments) : Except UsageCause (Option Invocation) :=
  match a.names.find? fun n => n = "--version".toText || n = "--help".toText with
  | some n => .ok (some (if n = "--version".toText then .version else .help none))
  | none =>
    match checkChoices [logLevels] true a a.names with
    | .error e => .error e
    | .ok _ => .ok none

/-- Looks for options where a command's name should stand. -/
def readUnknown (operands : List Text) (name : Text) : Except UsageCause Invocation :=
  match Arguments.read programOptions false operands with
  | .error e => .error e
  | .ok a =>
    match readProgramOptions a with
    | .error e => .error e
    | .ok (some i) => .ok i
    | .ok none => .error (.noSuchCommand name)

/-- Blames a command. -/
def blame {α : Type} (c : Option Command) : Except UsageCause α → Except UsageError α
  | .ok a => .ok a
  | .error cause => .error ⟨c, cause⟩

/-- What a command line asks for. -/
def read (exists? : Text → Bool) (arguments : List Text) : Except UsageError Invocation :=
  if arguments.isEmpty then .ok .nothing
  else
    match Arguments.read programOptions false arguments with
    | .error cause => .error ⟨none, cause⟩
    | .ok a =>
      match readProgramOptions a with
      | .error cause => .error ⟨none, cause⟩
      | .ok (some i) => .ok i
      | .ok none =>
        let level :=
          (a.value? "--log-level").bind fun v => LogLevel.ofName? (v.map CodePoint.toUpper)
        match a.operands with
        | [] => .error ⟨none, .missingCommand⟩
        | name :: rest =>
          match Command.ofName? name with
          | some c => blame (some c) (readCommand exists? level c rest)
          | none => blame none (readUnknown (name :: rest) name)

end Invocation

end BraceTemplate.CommandLine
