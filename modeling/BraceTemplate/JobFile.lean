import BraceTemplate.Environment
import BraceTemplate.Schema
import BraceTemplate.Yaml.Document

/-!
# BraceTemplate.JobFile

Jobs as YAML documents. A job is a mapping in which environment variables are replaced, the
template apart, before its fields are read.
-/

namespace BraceTemplate

inductive LoadCause where
  | notFound
  | badExtension (extension : Text)
  /-- A text that is no document. -/
  | noDocument
  | notMapping
  | environment (error : EnvironmentError)
  | invalid (errors : List FieldError)
  | fault (fault : Fault)
  deriving DecidableEq, Repr

/-- Why a job cannot be loaded, and the file that it was loaded from. -/
structure LoadError where
  file : Option Text
  cause : LoadCause
  deriving DecidableEq, Repr

structure LoadOptions where
  substitute : Bool := true
  strict : Bool := false
  deriving DecidableEq, Repr

namespace LoadError

def notMappingMessage : Text :=
  "Job must be a mapping with a 'template' key. ".toText ++
    "Suggestion: Start the file with 'template: ...'".toText

/-- The line that comes before what is wrong with a file's job. -/
def heading : Option Text → Text
  | none => []
  | some file => "Job validation failed for ".toText ++ file ++ ":\n".toText

def fieldMessage (e : FieldError) : Text :=
  Text.join ['.'] e.path ++ ": ".toText ++
    (match e.cause with
      | .missing => "Field required".toText
      | .notText => "Input should be a valid string".toText
      | .notList => "Input should be a valid list".toText
      | .notListed => "Input should be one of the listed values".toText
      | .notMapping => "Input should be a valid mapping".toText
      | .rejected message => message)

def message (e : LoadError) : Text :=
  let file := e.file.getD []
  match e.cause with
  | .notFound =>
    "Job file not found: ".toText ++ file ++
      ". Suggestion: Check the path or create the file.".toText
  | .badExtension extension =>
    "Invalid file extension: ".toText ++ extension ++
      ". Suggestion: Use .yaml or .yml extension for job files.".toText
  | .noDocument =>
    "Failed to parse YAML file ".toText ++ file ++
      ". Suggestion: Check YAML syntax using a validator.".toText
  | .notMapping => heading e.file ++ notMappingMessage
  | .environment error =>
    match e.file with
    | none => error.message
    | some file => (EnvironmentError.inFile file error).message
  | .invalid errors => heading e.file ++ Text.join ['\n'] (errors.map fieldMessage)
  | .fault _ => heading e.file

end LoadError

namespace JobFile

/-- The mapping that a text holds. -/
def readMapping (t : Text) : Except LoadCause Schema.Entries :=
  match Yaml.read t with
  | .error .malformed => .error .noDocument
  | .error (.fault f) => .error (.fault f)
  | .ok (.dict entries) => .ok entries
  | .ok _ => .error .notMapping

/-- Keys whose values are left as they are when variables are replaced. -/
def skippedKeys : List Text := ["template".toText]

def substitute (env : Environment) (options : LoadOptions) (entries : Schema.Entries) :
    Except LoadCause Schema.Entries :=
  if options.substitute then
    match Environment.substituteEntries env options.strict skippedKeys entries with
    | .ok entries => .ok entries
    | .error e => .error (.environment e)
  else .ok entries

def build (entries : Schema.Entries) : Except LoadCause Job :=
  if Schema.hasTextKeys entries then
    match Schema.readJob entries with
    | .ok job => .ok job
    | .error es => .error (.invalid es)
  else .error (.fault .keyNotText)

/-- The job that a text holds. -/
def read (env : Environment) (options : LoadOptions) (t : Text) : Except LoadCause Job :=
  match readMapping t with
  | .error c => .error c
  | .ok entries =>
    match substitute env options entries with
    | .error c => .error c
    | .ok entries => build entries

/-! ## Files -/

/-- The parts of a path, without empty ones and single dots. -/
def pathParts (path : Text) : List Text :=
  (Text.splitOn '/' path).filter fun part => part ≠ [] && part ≠ [.char '.']

/-- A path in its shortest form; two leading slashes are kept. -/
def normalPath (path : Text) : Text :=
  let slashes := path.takeWhile (· = .char '/')
  let root := if slashes.length = 2 then "//".toText else slashes.take 1
  let whole := root ++ Text.join [.char '/'] (pathParts path)
  if whole.isEmpty then ['.'] else whole

/-- The content of the file that a path names. -/
def contentOf? (files : List (Text × Text)) (path : Text) : Option Text :=
  (files.find? fun (f : Text × Text) => normalPath f.1 = normalPath path).map (·.2)

/-- A file name's last dot and what follows it; a leading dot and one at the end do not count. -/
def extension (path : Text) : Text :=
  match (pathParts path).getLast? with
  | none => []
  | some name =>
    let letters := name.reverse.takeWhile (· ≠ .char '.')
    if name = "..".toText || letters.isEmpty || decide (name.length ≤ letters.length + 1) then []
    else .char '.' :: letters.reverse

/-- Every way to end a line as one line feed. -/
def unifyLineEnds : Text → Text
  | [] => []
  | '\r' :: '\n' :: t => '\n' :: unifyLineEnds t
  | c :: t => (if c = '\r' then '\n' else c) :: unifyLineEnds t

/-- The job in a file, if the file has content. -/
def load (env : Environment) (options : LoadOptions) (path : Text) (content : Option Text) :
    Except LoadError Job :=
  let file := normalPath path
  let fail : {α : Type} → LoadCause → Except LoadError α := fun c => .error ⟨some file, c⟩
  match content with
  | none => fail .notFound
  | some t =>
    let ext := extension path
    if Text.lower ext = ".yaml".toText ∨ Text.lower ext = ".yml".toText then
      match read env options (unifyLineEnds t) with
      | .ok job => .ok job
      | .error c => fail c
    else fail (.badExtension ext)

end JobFile

end BraceTemplate
