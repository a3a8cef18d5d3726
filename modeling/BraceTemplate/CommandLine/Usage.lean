import BraceTemplate.CommandLine.Similarity
import BraceTemplate.Text.Quoted

/-!
# BraceTemplate.CommandLine.Usage

The commands of the program with their options, and what can be wrong with a command line.
-/

namespace BraceTemplate.CommandLine

structure OptionKind where
  /-- The name with two dashes. -/
  name : Text
  letter : Option CodePoint
  takesValue : Bool
  deriving DecidableEq, Repr

namespace OptionKind

def flag (name : String) : OptionKind := ⟨name.toText, none, false⟩

def value (name : String) : OptionKind := ⟨name.toText, none, true⟩

end OptionKind

inductive Command where
  | expand
  | render
  | validate
  | operators
  deriving DecidableEq, Repr

namespace Command

def name : Command → String
  | expand => "expand"
  | render => "render"
  | validate => "validate"
  | operators => "operators"

def all : List Command := [expand, render, validate, operators]

def ofName? (t : Text) : Option Command := all.find? fun c => c.name.toText = t

/-- What follows the options of a command. -/
def operandUsage : Command → String
  | expand => " TEMPLATE [PARAMS]..."
  | render => " JOB_PATH"
  | validate => " TEMPLATE"
  | operators => ""

def options : Command → List OptionKind
  | expand => [.flag "--json", .value "--timezone", .value "--locale", .flag "--help"]
  | render => [⟨"--output".toText, some 'o', true⟩, .value "--format", .flag "--help"]
  | validate => [.value "--level", .value "--format", .flag "--help"]
  | operators => [.flag "--help"]

end Command

/-- The options before the command. -/
def programOptions : List OptionKind := [.flag "--version", .value "--log-level", .flag "--help"]

inductive UsageCause where
  | noSuchOption (name : Text) (close : List Text)
  | argumentRequired (option : Text)
  | takesNoValue (option : Text)
  | noSuchCommand (name : Text)
  | missingCommand
  | missingArgument (name : String)
  | extraArguments (arguments : List Text)
  | notListed (option value : Text) (choices : List String)
  | noSuchPath (argument : String) (path : Text)
  deriving DecidableEq, Repr

/-- What is wrong, and with which command; without one, with the program's own options. -/
structure UsageError where
  command : Option Command
  cause : UsageCause
  deriving DecidableEq, Repr

namespace UsageError

def programName : Text := "expander".toText

/-- The words by which a command is called. -/
def path : Option Command → Text
  | none => programName
  | some c => programName ++ .char ' ' :: c.name.toText

def usage : Option Command → Text
  | none => "Usage: ".toText ++ programName ++ " [OPTIONS] COMMAND [ARGS]...".toText
  | some c => "Usage: ".toText ++ path (some c) ++ " [OPTIONS]".toText ++ c.operandUsage.toText

def quote (t : Text) : Text := .char '\'' :: t ++ [.char '\'']

def causeMessage : UsageCause → Text
  | .noSuchOption name close =>
    "No such option: ".toText ++ name ++
      (match close with
        | [] => []
        | [word] => " Did you mean ".toText ++ word ++ [.char '?']
        | words => " (Possible options: ".toText ++ Text.join ", ".toText words ++ [.char ')'])
  | .argumentRequired option =>
    "Option ".toText ++ Text.quoted option ++ " requires an argument.".toText
  | .takesNoValue option =>
    "Option ".toText ++ Text.quoted option ++ " does not take a value.".toText
  | .noSuchCommand name => "No such command ".toText ++ Text.quoted name ++ [.char '.']
  | .missingCommand => "Missing command.".toText
  | .missingArgument name => "Missing argument ".toText ++ quote name.toText ++ [.char '.']
  | .extraArguments arguments =>
    "Got unexpected extra argument".toText ++ (if arguments.length = 1 then [] else "s".toText) ++
      " (".toText ++ Text.join [' '] arguments ++ [.char ')']
  | .notListed option value choices =>
    "Invalid value for ".toText ++ quote option ++ ": ".toText ++ Text.quoted value ++
      " is not one of ".toText ++
      Text.join ", ".toText (choices.map fun c => quote c.toText) ++ [.char '.']
  | .noSuchPath argument path =>
    "Invalid value for ".toText ++ quote argument.toText ++ ": Path ".toText ++ Text.quoted path ++
      " does not exist.".toText

/-- Whether the usage of the command is shown too. -/
def showsUsage : UsageCause → Bool
  | .argumentRequired _ => false
  | .takesNoValue _ => false
  | _ => true

/-- The lines that are shown, each with a line feed. -/
def message (e : UsageError) : Text :=
  (if showsUsage e.cause then
    usage e.command ++ "\nTry '".toText ++ path e.command ++ " --help' for help.\n\n".toText
  else []) ++ "Error: ".toText ++ causeMessage e.cause ++ [.char '\n']

end UsageError

end BraceTemplate.CommandLine
