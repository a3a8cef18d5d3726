import BraceTemplate.Batch
import BraceTemplate.CommandLine.Invocation
import BraceTemplate.Console.Markup
import BraceTemplate.Console.Table
import BraceTemplate.JobFile
import BraceTemplate.Json
import BraceTemplate.Log

/-!
# BraceTemplate.CommandLine.Run

What the program prints and writes for a command line, given the files, the environment and the
clock that it sees.
-/

namespace BraceTemplate.CommandLine

structure Surroundings where
  /-- Paths of files with their contents. -/
  files : List (Text × Text)
  environment : Environment
  clock : Calendar.Moment

/-- Why the program ends in the middle. -/
inductive Crash where
  | fault (fault : Fault)
  /-- A closing tag that closes nothing in a text with markup. -/
  | malformedMarkup
  /-- A directory where a file is to be read or written. -/
  | isDirectory
  | noDirectory
  deriving DecidableEq, Repr

structure Outcome where
  exitCode : Nat
  output : Text
  errors : Text
  written : List (Text × Text)
  crash : Option Crash
  deriving DecidableEq, Repr

namespace Outcome

/-- Nothing has happened yet. -/
def start : Outcome := ⟨0, [], [], [], none⟩

/-- What is done unless the program has ended. -/
def andThen (o : Outcome) (next : Outcome → Outcome) : Outcome :=
  if o.crash.isSome then o else next o

def crashed (o : Outcome) (c : Crash) : Outcome :=
  o.andThen fun o => { o with exitCode := 1, crash := some c }

/-- Prints a text, which must not have a surrogate in it. -/
def print (o : Outcome) (t : Text) : Outcome :=
  if t.IsScalar then o.andThen fun o => { o with output := o.output ++ t }
  else o.crashed (.fault .loneSurrogate)

/-- Prints texts one after the other. -/
def printAll (o : Outcome) (ts : List Text) : Outcome := ts.foldl print o

/-- A surrogate is logged as an escape. -/
def log (o : Outcome) (t : Text) : Outcome :=
  let written := t.flatMap fun c => if c.isSurrogate then Json.unitText c.toNat else [c]
  o.andThen fun o => { o with errors := o.errors ++ written }

def exit (o : Outcome) (code : Nat) : Outcome := o.andThen fun o => { o with exitCode := code }

def aborted (o : Outcome) : Outcome := (o.log "Aborted!\n".toText).exit 1

/-- Prints a text with markup. -/
def printMarkup (o : Outcome) (t : Text) : Outcome :=
  match Console.printMarkup? t with
  | some t => o.print t
  | none => o.crashed .malformedMarkup

end Outcome

/-! ## Texts -/

/-- A text without the sequences that control a terminal's colours. -/
def dropEscapes : Nat → Text → Text
  | 0, t => t
  | _, [] => []
  | fuel + 1, c :: t =>
    let parameters : Text → Text :=
      List.dropWhile fun d => d = ';' || d = '?' || Text.isAsciiDigit d
    match t with
    | '[' :: behind =>
      match parameters behind with
      | letter :: rest =>
        if c = '\x1b' ∧ Text.isAsciiLetter letter then dropEscapes fuel rest
        else c :: dropEscapes fuel t
      | [] => c :: dropEscapes fuel t
    | t => c :: dropEscapes fuel t

/-- A text as it is written where no terminal is, with a line feed behind it. -/
def echo (t : Text) : Text := dropEscapes (t.length + 1) t ++ [.char '\n']

/-- The text of a fault that is reported like an error; other faults end the program. -/
def reported? : Fault → Option Text
  | .tooManyDigits => some "Exceeds the limit (4300 digits) for integer string conversion".toText
  | .undefinedInteger => some "cannot convert float NaN to integer".toText
  | .firstDayOfCalendar => some "year 0 is out of range".toText
  | .malformedSpecifier => some "Invalid format specifier".toText
  | .groupingNotAllowed => some "Cannot specify ',' with this conversion".toText
  | .malformedScalar => some "Invalid value".toText
  | .loneSurrogate => some "surrogates not allowed".toText
  | .incompatibleFlags => some "flags are mutually incompatible".toText
  | _ => none

def settingsMessage (es : List FieldError) : Text :=
  Text.join ['\n'] (es.map LoadError.fieldMessage)

/-! ## Expanding -/

/-- A parameter read as JSON; what is not JSON stays text. -/
def readParameter (t : Text) : Except Fault Value :=
  match Json.read t with
  | .ok v => .ok v
  | .error .malformed => .ok (.text t)
  | .error (.fault f) => .error f

def readParameters (asJson : Bool) : List Text → Except Fault (List Value)
  | [] => .ok []
  | t :: ts =>
    match (if asJson then readParameter t else .ok (.text t)) with
    | .error f => .error f
    | .ok v =>
      match readParameters asJson ts with
      | .error f => .error f
      | .ok vs => .ok (v :: vs)

def failedExpansion (o : Outcome) (message : Text) : Outcome :=
  (o.printMarkup ("❌ [red]Expansion failed:[/red] ".toText ++ Console.escapeMarkup message)).aborted

def runExpand (s : Surroundings) (level : LogLevel) (r : ExpandRequest) : Outcome :=
  match readParameters r.asJson r.parameters with
  | .error f => Outcome.start.crashed (.fault f)
  | .ok parameters =>
    let zone : Value := match r.zone with
      | none => .none
      | some z => .text z
    let entries : Schema.Entries :=
      [(.text "locale".toText, .text r.locale), (.text "default_timezone".toText, zone)]
    match Schema.readSettings entries with
    | .error es => failedExpansion .start (settingsMessage es)
    | .ok settings =>
      let notes := if level = .debug then
          Trace.expansionNotes settings s.clock r.template parameters
        else []
      let o := Outcome.start.log (logText level notes)
      match expand settings s.clock r.template parameters with
      | .ok t => o.print (echo t)
      | .error (.expansion e) => failedExpansion o e.message
      | .error (.fault f) =>
        match reported? f with
        | some message => failedExpansion o message
        | none => o.crashed (.fault f)

/-! ## Rendering -/

/-- Whether a path names a directory: the current one, or one with a file in it. -/
def isDirectory (files : List (Text × Text)) (path : Text) : Bool :=
  let parts := JobFile.pathParts path
  parts.isEmpty || parts.all (· = "..".toText) ||
    files.any fun (f : Text × Text) =>
      let whole := JobFile.pathParts f.1
      parts.isPrefixOf whole && decide (parts.length < whole.length)

def pathExists (files : List (Text × Text)) (path : Text) : Bool :=
  !path.isEmpty && ((JobFile.contentOf? files path).isSome || isDirectory files path)

/-- Writes a file into a directory that is there. The file is left empty if its content has a
surrogate in it. -/
def writeFile (s : Surroundings) (path content : Text) (o : Outcome) : Outcome :=
  let write : Text → Outcome := fun t =>
    { o with written := o.written ++ [(JobFile.normalPath path, t)] }
  if isDirectory s.files path then o.crashed .isDirectory
  else if isDirectory s.files (Text.join ['/'] (JobFile.pathParts path).dropLast) then
    if content.IsScalar then write content else (write []).crashed (.fault .loneSurrogate)
  else o.crashed .noDirectory

/-- The notes of rendering some sets of which the first has a given number. -/
def renderNotes (level : LogLevel) (settings : Settings) (clock : Calendar.Moment)
    (template : Text) : Nat → List (List Value) → List (Nat × ExpansionError) → List Note
  | _, [], _ => []
  | n, set :: sets, errors =>
    (if level = .debug then Trace.expansionNotes settings clock template set else []) ++
      (match errors.lookup n with
        | some e => [.setFailed n e]
        | none => []) ++
      renderNotes level settings clock template (n + 1) sets errors

def valueOfOutput : Option Text → Value
  | some t => .text t
  | none => .none

def named (name : String) (v : Value) : Value × Value := (.text name.toText, v)

/-- The result of a batch as one value. -/
def resultValue (path : Text) (job : Job) (r : BatchResult) : Value :=
  .dict
    [named "job_path" (.text (JobFile.normalPath path)),
      named "results" (.list ((job.parameters.zip r.outputs).map fun p =>
        .dict [named "parameters" (.list p.1), named "output" (valueOfOutput p.2)])),
      named "errors" (.list (r.errors.map fun e =>
        .dict [named "index" (.int e.1), named "error" (.text e.2.message)])),
      named "statistics" (.dict
        [named "total" (.int r.outputs.length), named "success_rate" (.float r.successRate),
          named "render_time" (.float (Number.Binary64.zero false))])]

/-- An output as a line of JSON, with its number. -/
def outputLine (n : Nat) (output : Option Text) : Except Fault Text :=
  Json.write .compact (.dict [named "id" (.int n), named "output" (valueOfOutput output)])

def outputLines : Nat → List (Option Text) → Except Fault (List Text)
  | _, [] => .ok []
  | n, output :: outputs =>
    match outputLine n output with
    | .error f => .error f
    | .ok line =>
      match outputLines (n + 1) outputs with
      | .error f => .error f
      | .ok lines => .ok (line :: lines)

/-- The result of a batch in a format. -/
def resultText (format : OutputFormat) (path : Text) (job : Job) (r : BatchResult) :
    Except Fault Text :=
  match format with
  | .json => Json.write .indented (resultValue path job r)
  | .jsonLines => (outputLines 0 r.outputs).map (Text.join ['\n'])
  | .text => .ok (Text.join ['\n'] (r.outputs.map fun t => t.getD []))

def statistics (r : BatchResult) : Text :=
  let rows : List (Text × Text) :=
    [("Parameter Sets".toText, Number.natText r.outputs.length),
      ("Success Rate".toText,
        Number.fixedText r.successRate.numerator r.successRate.denominator 1 true ++ [.char '%']),
      ("Render Time".toText, "0.000s".toText)]
  let width : Text → List Text → Nat := fun heading cells =>
    (cells.map List.length).foldl max heading.length
  let columns : List Console.Column :=
    [⟨"Metric".toText, width "Metric".toText (rows.map (·.1))⟩,
      ⟨"Value".toText, width "Value".toText (rows.map (·.2))⟩]
  Console.table (some "Expansion Statistics".toText) columns (rows.map fun p => [p.1, p.2])

/-- The first errors of a batch under a heading. -/
def errorList (r : BatchResult) : List Text :=
  if r.errors.isEmpty then []
  else
    "\nExpansion errors:\n".toText ::
      (r.errors.take 5).map fun e =>
        Console.printPlain
          ("  • Set ".toText ++ Number.natText (e.1 + 1) ++ ": ".toText ++ e.2.message)

def failedLoad (message : Text) : Outcome :=
  (Outcome.start.printMarkup
    ("❌ [red]Error loading job:[/red] ".toText ++ Console.escapeMarkup message)).aborted

/-- Shows the result of a batch, or writes it to a file. -/
def showResult (s : Surroundings) (r : RenderRequest) (text : Text) (o : Outcome) : Outcome :=
  match r.output with
  | none => o.print (echo text)
  | some path =>
    (writeFile s path text o).printMarkup ("📄 Output saved to ".toText ++ JobFile.normalPath path)

def renderJob (s : Surroundings) (level : LogLevel) (r : RenderRequest) (job : Job)
    (o : Outcome) : Outcome :=
  match renderBatch (expand job.settings s.clock job.template) {} job.parameters with
  | .error f => o.crashed (.fault f)
  | .ok result =>
    let o := o.log (logText level
      (renderNotes level job.settings s.clock job.template 0 job.parameters result.errors))
    match resultText r.format r.path job result with
    | .error f => o.crashed (.fault f)
    | .ok text =>
      ((showResult s r text o).printAll (statistics result :: errorList result)).exit
        (if result.errors.isEmpty then 0 else 1)

/-- Renders a job. Without a level of its own the program takes the level of the job once it is
loaded. -/
def runRender (s : Surroundings) (level : Option LogLevel) (r : RenderRequest) : Outcome :=
  let content := JobFile.contentOf? s.files r.path
  match JobFile.load s.environment {} r.path (content.or (some [])) with
  | .error e =>
    match e.cause with
    | .fault f =>
      match reported? f with
      | some message => failedLoad (e.message ++ message)
      | none => Outcome.start.crashed (.fault f)
    | .badExtension _ => failedLoad e.message
    | _ => if content.isNone then Outcome.start.crashed .isDirectory else failedLoad e.message
  | .ok job =>
    let loaded := logText (level.getD .warning) [.jobLoaded job.parameters.length]
    renderJob s (level.getD job.settings.logLevel) r job (Outcome.start.log loaded)

/-! ## Validating -/

def problemTexts (ps : List Problem) : List Text := ps.map (Problem.message true)

def reportValue (r : Report) : Value :=
  let texts : List Text → Value := fun ts => .list (ts.map Value.text)
  .dict
    [named "is_valid" (.bool r.isValid), named "errors" (texts (problemTexts r.errors)),
      named "warnings" (texts (problemTexts r.warnings)), named "tokens" (texts r.tokens),
      named "metadata" (.dict
        [named "length" (.int r.length), named "lines" (.int r.lines),
          named "sequential_references" (.int r.sequentialReferences),
          named "max_index" (.int r.highestPosition),
          named "uses_current_time" (.bool r.usesClock)])]

/-- Problems under a heading, if there are any. -/
def problemList (heading : String) (ps : List Problem) : List Text :=
  if ps.isEmpty then []
  else heading.toText :: (problemTexts ps).map fun t => Console.printPlain ("  • ".toText ++ t)

/-- What is printed of a report, one text after the other. -/
def reportTexts (r : Report) : List Text :=
  (if r.isValid then "✅ Template is valid\n" else "❌ Template validation failed\n").toText ::
    problemList "\nErrors:\n" r.errors ++ problemList "\nWarnings:\n" r.warnings ++
    [Console.print ("\nTokens: ".toText ++ Number.natText r.tokens.length ++
      "  Sequential references: ".toText ++ Number.natText r.sequentialReferences ++
      "  Highest fixed index: ".toText ++ Number.intText r.highestPosition)]

def runValidate (s : Surroundings) (level : LogLevel) (r : ValidateRequest) : Outcome :=
  let notes := if level = .debug then Trace.scanNotes r.template else []
  let o := Outcome.start.log (logText level notes)
  match validate r.level {} s.clock r.template with
  | .error f => o.crashed (.fault f)
  | .ok report =>
    let code := if report.isValid then 0 else 1
    if r.format = .json then
      match Json.write .readable (reportValue report) with
      | .error f => o.crashed (.fault f)
      | .ok t => (o.print (Codec.Utf16.joinPairs t ++ [.char '\n'])).exit code
    else (o.printAll (reportTexts report)).exit code

/-! ## Listing what a token may hold -/

def tokenOptions : List (List String) :=
  [["n", "Use parameter n (1-based) as the value", "\x7b2\x7d → second parameter"],
    ["trim", "Strip leading and trailing whitespace", "\x7btrim\x7d"],
    ["lower, tolower", "Convert to lower case", "\x7blower\x7d"],
    ["upper, toupper", "Convert to upper case", "\x7bupper\x7d"],
    ["urlencode", "Percent-encode (space becomes +)", "\x7burlencode\x7d"],
    ["urldecode", "Decode percent-encoding", "\x7burldecode\x7d"],
    ["b64encode, base64encode", "Base64-encode UTF-8 text", "\x7bb64encode\x7d"],
    ["b64decode, base64decode", "Base64-decode; invalid input is kept as-is", "\x7bb64decode\x7d"],
    ["[start]", "Substring from start to the end", "\x7b[4]\x7d hamburger → urger"],
    ["[start,end]", "Substring, negative end counts back", "\x7b[4,-2]\x7d → urge"],
    ["[start:length]", "Substring of a given length", "\x7b[4:4]\x7d → urge"],
    ["[/pattern/group]", "Regex search, whole match or group", "\x7b[/(.)l/1]\x7d"],
    ["%spec", "printf-style conversion", "\x7b%-6s\x7d, \x7b%10.3e\x7d"],
    ["date(format)[zone]", "Format a date parameter", "\x7bdate(yyyy-MM-dd)[UTC]\x7d"],
    ["now(format)[zone]", "Format the current time", "\x7bnow(HH:mm)\x7d"]]

def markerLines : List String :=
  ["", "Markers:", "  • \x7b?\x7d opens a block kept only if a token in it is non-empty",
    "  • \x7b.\x7d closes the block",
    "  • \\\x7b...\x7d is copied literally, \\\\\x7b...\x7d is prefixed with \\"]

def exampleTemplate : String :=
  "?q=\x7burlencode\x7d\x7b?\x7d&page=\x7b\x7d\x7b?\x7d&since=\x7bdate(yyyy-MM-dd)[UTC]\x7d"

def operatorsText : Text :=
  let columns : List Console.Column :=
    [⟨"Option".toText, 23⟩, ⟨"Description".toText, 24⟩, ⟨"Example".toText, 23⟩]
  "🔧 Available Token Options\n\n".toText ++
    Console.table none columns (tokenOptions.map fun row => row.map String.toText) ++
    markerLines.flatMap (fun l => l.toText ++ [.char '\n']) ++
    Console.panel "Example Template".toText exampleTemplate.toText

/-! ## Running -/

/-- The version of the program. -/
def version : String := "0.1.0"

def runRequest (s : Surroundings) (level : Option LogLevel) : Request → Outcome
  | .expand r => runExpand s (level.getD .warning) r
  | .render r => runRender s level r
  | .validate r => runValidate s (level.getD .warning) r
  | .operators => Outcome.start.print operatorsText

def runInvocation (s : Surroundings) : Invocation → Outcome
  | .version => Outcome.start.print ("expander, version ".toText ++ version.toText ++ [.char '\n'])
  | .help c => Outcome.start.print (UsageError.usage c ++ [.char '\n'])
  | .nothing => (Outcome.start.log (UsageError.usage none ++ [.char '\n'])).exit 2
  | .request level r => runRequest s level r

/-- The outcome of a command line. -/
def run (s : Surroundings) (arguments : List Text) : Outcome :=
  match Invocation.read (pathExists s.files) arguments with
  | .error e =>
    let message := e.message
    (Outcome.start.log (dropEscapes (message.length + 1) message)).exit 2
  | .ok i => runInvocation s i

end BraceTemplate.CommandLine
