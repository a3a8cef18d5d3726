import BraceTemplate.CommandLine.Run
import Std.Time.DateTime.Timestamp

/-!
# BraceTemplate.Main

The program: reads the job that its arguments name, runs the command line and writes what comes of
it.
-/

namespace BraceTemplate.Main

/-- The content of the file at a path, if there is one. -/
def readFile? (path : Text) : IO (Option (Text × Text)) := do
  try
    let content ← IO.FS.readFile (Text.string path)
    pure (some (path, content.toText))
  catch _ => pure none

/-- The variables that a job refers to, as far as they are set. -/
def readEnvironment (files : List (Text × Text)) : IO Environment := do
  let names := files.flatMap fun (f : Text × Text) =>
    match Yaml.read (JobFile.unifyLineEnds f.2) with
    | .ok v => Environment.namesIn v
    | .error _ => []
  let found ← names.mapM fun name => do
    let value ← IO.getEnv (Text.string name)
    pure (value.map fun v => (name, v.toText))
  pure (found.filterMap id)

/-- The time of the system's clock. -/
def readClock : IO Calendar.Moment := do
  let now ← Std.Time.Timestamp.now
  let micros := now.toNanosecondsSinceUnixEpoch.toInt / 1000
  pure ⟨Calendar.epochClock + micros, some 0⟩

def surroundings (arguments : List Text) : IO CommandLine.Surroundings := do
  let files := (← arguments.mapM readFile?).filterMap id
  pure ⟨files, ← readEnvironment files, ← readClock⟩

def write (o : CommandLine.Outcome) : IO UInt32 := do
  for (path, content) in o.written do
    IO.FS.writeFile (Text.string path) (Text.string content)
  IO.print (Text.string o.output)
  IO.eprint (Text.string o.errors)
  match o.crash with
  | some c => IO.eprintln (reprStr c)
  | none => pure ()
  pure (UInt32.ofNat o.exitCode)

end BraceTemplate.Main

open BraceTemplate in
def main (arguments : List String) : IO UInt32 := do
  let arguments := arguments.map String.toText
  Main.write (CommandLine.run (← Main.surroundings arguments) arguments)
