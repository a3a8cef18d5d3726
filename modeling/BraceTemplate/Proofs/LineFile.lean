import BraceTemplate.Proofs.Accounting
import BraceTemplate.Proofs.JsonLines
import BraceTemplate.Proofs.Printing

/-!
# BraceTemplate.Proofs.LineFile

A job rendered into a file of lines. The run fails neither where it writes the file nor where it
tells of it: a plain name is a path of its own (`normalPath_of_isPlainName`), and without a slash no
tag closes anything (`exists_printMarkup?_of_not_mem`). So the file holds one line of JSON for each
output (`run_writes_lines`). What is printed behind it has a surrogate only in the message of an
error (`Outcome.printAll_ends`).
-/

namespace BraceTemplate

namespace CommandLine

/-! ## Plain names -/

/-- The name of a file in the current directory. -/
structure IsPlainName (files : List (Text × Text)) (name : Text) : Prop where
  noSlash : .char '/' ∉ name
  noSurrogate : name.IsScalar
  noDirectory : isDirectory files name = false

section

variable {files : List (Text × Text)} {name : Text}

theorem splitOn_of_not_mem {t : Text} (h : CodePoint.char '/' ∉ t) : Text.splitOn '/' t = [t] := by
  induction t with
  | nil => rfl
  | cons c t ih =>
    rw [List.mem_cons, not_or] at h
    rw [Text.splitOn, if_neg (Ne.symm h.1), ih h.2]

theorem pathParts_of_isPlainName (h : IsPlainName files name) :
    JobFile.pathParts name = [name] := by
  have hdirectory := h.noDirectory
  have hparts : JobFile.pathParts name =
      [name].filter fun part => part ≠ [] && part ≠ [CodePoint.char '.'] := by
    rw [JobFile.pathParts, splitOn_of_not_mem h.noSlash]
  rw [List.filter_singleton] at hparts
  cases hkept : (decide (name ≠ []) && decide (name ≠ [.char '.'])) with
  | true => rwa [hkept] at hparts
  | false =>
    rw [hkept] at hparts
    rw [isDirectory, hparts] at hdirectory
    cases hdirectory

theorem normalPath_of_isPlainName (h : IsPlainName files name) :
    JobFile.normalPath name = name := by
  have hparts := pathParts_of_isPlainName h
  have hslashes : name.takeWhile (· = .char '/') = [] := by
    rw [List.takeWhile_eq_nil_iff]
    intro hlength hhead
    exact h.noSlash (of_decide_eq_true hhead ▸ List.getElem_mem hlength)
  have hne : name ≠ [] := by
    rintro rfl
    cases hparts
  simp [JobFile.normalPath, hslashes, hparts, Text.join, hne]

theorem writeFile_of_isPlainName {s : Surroundings} (h : IsPlainName s.files name) {t : Text}
    (ht : t.IsScalar) (o : Outcome) :
    writeFile s name t o = { o with written := o.written ++ [(name, t)] } := by
  have hcurrent : isDirectory s.files [] = true := rfl
  have hno : ¬ isDirectory s.files name = true := by simp [h.noDirectory]
  rw [writeFile, if_neg hno, pathParts_of_isPlainName h, normalPath_of_isPlainName h]
  exact (if_pos hcurrent).trans (if_pos ht)

end

/-! ## What is printed -/

namespace Outcome

variable {o : Outcome} {t : Text} {c : Crash}

theorem andThen_of_none (h : o.crash = none) (next : Outcome → Outcome) :
    o.andThen next = next o := by simp [andThen, h]

theorem andThen_of_some (h : o.crash = some c) (next : Outcome → Outcome) : o.andThen next = o := by
  simp [andThen, h]

theorem print_of_isScalar (ho : o.crash = none) (ht : t.IsScalar) :
    o.print t = { o with output := o.output ++ t } := by
  rw [print, if_pos ht, andThen_of_none ho]

theorem printAll_of_some (h : o.crash = some c) (ts : List Text) : o.printAll ts = o := by
  induction ts with
  | nil => rfl
  | cons t ts ih =>
    have hprint : o.print t = o := by
      rw [print, crashed, andThen_of_some h, andThen_of_some h, ite_self]
    rw [printAll, List.foldl_cons, hprint]
    exact ih

/-- Printing ends in a crash only at a text with a surrogate in it. -/
theorem printAll_ends (ho : o.crash = none) (ts : List Text) :
    (o.printAll ts).written = o.written ∧
      ((o.printAll ts).crash = none ∧ (o.printAll ts).exitCode = o.exitCode ∨
        (o.printAll ts).crash = some (.fault .loneSurrogate) ∧ (o.printAll ts).exitCode = 1 ∧
          ∃ t ∈ ts, ¬ t.IsScalar) := by
  induction ts generalizing o with
  | nil => exact ⟨rfl, .inl ⟨ho, rfl⟩⟩
  | cons t ts ih =>
    rw [printAll, List.foldl_cons]
    by_cases ht : t.IsScalar
    · rw [print_of_isScalar ho ht]
      obtain ⟨hwritten, hend⟩ := ih (o := { o with output := o.output ++ t }) ho
      refine ⟨hwritten, hend.imp_right fun ⟨hcrash, hcode, u, hu, hnot⟩ => ?_⟩
      exact ⟨hcrash, hcode, u, List.mem_cons_of_mem t hu, hnot⟩
    · have hprint : o.print t =
          { o with exitCode := 1, crash := some (.fault .loneSurrogate) } := by
        rw [print, if_neg ht, crashed, andThen_of_none ho]
      rw [hprint]
      have hstay :=
        printAll_of_some (o := { o with exitCode := 1, crash := some (.fault .loneSurrogate) })
        rfl ts
      rw [printAll] at hstay
      rw [hstay]
      exact ⟨rfl, .inr ⟨rfl, rfl, t, List.mem_cons_self, ht⟩⟩

theorem exit_printAll_ends (ho : o.crash = none) (ts : List Text) (code : Nat) :
    ((o.printAll ts).exit code).written = o.written ∧
      (((o.printAll ts).exit code).crash = none ∧ ((o.printAll ts).exit code).exitCode = code ∨
        ((o.printAll ts).exit code).crash = some (.fault .loneSurrogate) ∧
          ((o.printAll ts).exit code).exitCode = 1 ∧ ∃ t ∈ ts, ¬ t.IsScalar) := by
  obtain ⟨hwritten, ⟨hcrash, -⟩ | hend⟩ := printAll_ends ho ts
  · rw [exit, andThen_of_none hcrash]
    exact ⟨hwritten, .inl ⟨hcrash, rfl⟩⟩
  · rw [exit, andThen_of_some hend.1]
    exact ⟨hwritten, .inr hend⟩

end Outcome

theorem isScalar_statistics (r : BatchResult) : (statistics r).IsScalar := by
  refine Console.isScalar_table ?_ ?_ ?_
  · rintro t ⟨⟩
    exact Text.isScalar_ofChars _
  · simp
  · simp

theorem isScalar_of_mem_errorList {r : BatchResult}
    (h : ∀ e ∈ r.errors.take 5, e.2.message.IsScalar) : ∀ t ∈ errorList r, t.IsScalar := by
  rw [errorList]
  split
  · exact List.forall_mem_nil _
  · refine List.forall_mem_cons.2 ⟨Text.isScalar_ofChars _, List.forall_mem_map.2 fun e he => ?_⟩
    refine Console.isScalar_printPlain ?_
    simp [h e he]

/-! ## The run -/

/-- What stands behind the command to have the lines of a job in a file. -/
def toFile (file path : Text) : List Text :=
  ["--format".toText, "jsonl".toText, "--output".toText, file, path]

theorem arguments_toFile {file path : Text} (hpath : Arguments.isOption path = false) :
    Arguments.read Command.render.options true (toFile file path) =
      .ok ⟨[("--format".toText, "jsonl".toText), ("--output".toText, file)], [path]⟩ := by
  have hdashes : path ≠ "--".toText := by
    rintro rfl
    cases hpath
  have hoptions : Arguments.read Command.render.options true (toFile file path) =
      Arguments.readFrom Command.render.options true 3 [path]
        ⟨[("--format".toText, "jsonl".toText), ("--output".toText, file)], []⟩ := rfl
  rw [hoptions, Arguments.readFrom, if_neg hdashes, if_neg (by simp [hpath]), if_pos rfl]
  rfl

/-- The command line that asks for the lines of a job in a file. -/
theorem read_render_toFile {exists? : Text → Bool} {file path : Text}
    (hexists : exists? path = true) (hpath : Arguments.isOption path = false) :
    Invocation.read exists? ("render".toText :: toFile file path) =
      .ok (.request none (.render ⟨path, some file, .jsonLines⟩)) := by
  have hcommand : Invocation.read exists? ("render".toText :: toFile file path) =
      Invocation.blame (some .render)
        (Invocation.readCommand exists? none .render (toFile file path)) := rfl
  have hrequest : Invocation.requestOf exists?
      ⟨[("--format".toText, "jsonl".toText), ("--output".toText, file)], [path]⟩ .render =
        .ok (.render ⟨path, some file, .jsonLines⟩) := by
    simp only [Invocation.requestOf, hexists, if_true]
    rfl
  rw [hcommand, Invocation.readCommand, arguments_toFile hpath]
  simp only [hrequest]
  rfl

theorem isEmpty_errors_of_renderBatch {expandSet : List Value → Except Failure Text}
    {sets : List (List Value)} {r : BatchResult} (h : renderBatch expandSet {} sets = .ok r) :
    r.errors.isEmpty = decide (none ∉ r.outputs) := by
  have hpositions := (accounts_of_renderBatch h fun _ => by decide).positions
  rw [Bool.eq_iff_iff, List.isEmpty_iff, decide_eq_true_iff]
  constructor
  · intro herrors hmem
    obtain ⟨i, hi⟩ := List.mem_iff_getElem?.1 hmem
    have herror := (hpositions i).2 hi
    rw [herrors] at herror
    cases herror
  · intro hmem
    have hnumbers : r.errors.map (·.1) = [] := List.eq_nil_iff_forall_not_mem.2 fun i hi =>
      hmem (List.mem_of_getElem? ((hpositions i).1 hi))
    exact List.map_eq_nil_iff.1 hnumbers

/-- A text with a surrogate behind the result is the message of an error, so a set has failed. -/
theorem none_mem_outputs_of_not_isScalar {expandSet : List Value → Except Failure Text}
    {sets : List (List Value)} {r : BatchResult} (hbatch : renderBatch expandSet {} sets = .ok r)
    (h : ∃ t ∈ statistics r :: errorList r, ¬ t.IsScalar) :
    none ∈ r.outputs ∧ ∃ e ∈ r.errors.take 5, ¬ e.2.message.IsScalar := by
  obtain ⟨t, ht, hsurrogate⟩ := h
  have hmessage : ¬ ∀ e ∈ r.errors.take 5, e.2.message.IsScalar := by
    intro hmessages
    exact hsurrogate (List.forall_mem_cons.2
      ⟨isScalar_statistics r, isScalar_of_mem_errorList hmessages⟩ t ht)
  push Not at hmessage
  refine ⟨?_, hmessage⟩
  by_contra hnone
  have herrors := isEmpty_errors_of_renderBatch hbatch
  rw [decide_eq_true hnone, List.isEmpty_iff] at herrors
  obtain ⟨e, he, -⟩ := hmessage
  rw [herrors] at he
  cases he

/-- The content is written, and the file that holds it is told. -/
theorem exists_showResult_eq {s : Surroundings} {r : RenderRequest} {file : Text} {o : Outcome}
    (houtput : r.output = some file) (hfile : IsPlainName s.files file) (ho : o.crash = none)
    {text : Text} (htext : text.IsScalar) :
    ∃ told, showResult s r text o =
      { o with written := o.written ++ [(file, text)], output := o.output ++ told } := by
  have hnoSlash : .char '/' ∉ "📄 Output saved to ".toText ++ file := by
    rw [List.mem_append, not_or]
    exact ⟨by decide, hfile.noSlash⟩
  have hscalar : ("📄 Output saved to ".toText ++ file).IsScalar :=
    Text.isScalar_append.2 ⟨Text.isScalar_ofChars _, hfile.noSurrogate⟩
  obtain ⟨told, htold⟩ := Console.exists_printMarkup?_of_not_mem hnoSlash
  refine ⟨told, ?_⟩
  simp only [showResult, houtput, writeFile_of_isPlainName hfile htext,
    normalPath_of_isPlainName hfile, Outcome.printMarkup, htold]
  exact Outcome.print_of_isScalar ho (Console.isScalar_of_printMarkup? hscalar htold)

/-- What rendering a job into a file of lines does, from where the job has been loaded. -/
theorem renderJob_toFile {s : Surroundings} {level : LogLevel} {path file : Text} {job : Job}
    {r : BatchResult} {o o' : Outcome} (hfile : IsPlainName s.files file) (ho : o.crash = none)
    (hbatch : renderBatch (expand job.settings s.clock job.template) {} job.parameters = .ok r)
    (hend : renderJob s level ⟨path, some file, .jsonLines⟩ job o = o') :
    (r.outputs.length ≤ 10 ^ Number.maxDigits →
      o'.written = o.written ++ [(file, Text.join ['\n'] (linesFrom 0 r.outputs))] ∧
        o'.exitCode = (if none ∈ r.outputs then 1 else 0) ∧
        ∀ c ∈ o'.crash, c = .fault .loneSurrogate ∧ ∃ e ∈ r.errors.take 5, ¬ e.2.message.IsScalar) ∧
    (10 ^ Number.maxDigits < r.outputs.length →
      o'.crash = some (.fault .tooManyDigits) ∧ o'.written = o.written) := by
  have hlines := outputLines_eq (Nat.zero_le _) r.outputs
  have herrors := isEmpty_errors_of_renderBatch hbatch
  rw [Nat.zero_add] at hlines
  simp only [renderJob, hbatch, resultText, hlines] at hend
  generalize logText level _ = log at hend
  have hlog : (o.log log).crash = none ∧ (o.log log).written = o.written := by
    rw [Outcome.log, Outcome.andThen_of_none ho]
    exact ⟨ho, rfl⟩
  constructor
  · intro hcount
    rw [if_pos hcount] at hend
    simp only [Except.map] at hend
    obtain ⟨told, hshow⟩ := exists_showResult_eq (r := ⟨path, some file, .jsonLines⟩) rfl hfile
      hlog.1 (isScalar_join_linesFrom 0 r.outputs)
    rw [hshow, hlog.2] at hend
    obtain ⟨hwritten, hstop⟩ := Outcome.exit_printAll_ends (o := { o.log log with
      written := o.written ++ [(file, Text.join ['\n'] (linesFrom 0 r.outputs))],
      output := (o.log log).output ++ told }) hlog.1 (statistics r :: errorList r)
      (if r.errors.isEmpty then 0 else 1)
    rw [hend] at hwritten hstop
    refine ⟨hwritten, ?_⟩
    rcases hstop with ⟨hcrash, hcode⟩ | ⟨hcrash, hcode, hsurrogate⟩
    · rw [hcode, hcrash, herrors]
      refine ⟨by simp, ?_⟩
      rintro c ⟨⟩
    · obtain ⟨hfailed, hmessage⟩ := none_mem_outputs_of_not_isScalar hbatch hsurrogate
      rw [hcode, hcrash, if_pos hfailed]
      refine ⟨rfl, ?_⟩
      rintro c ⟨⟩
      exact ⟨rfl, hmessage⟩
  · intro hcount
    rw [if_neg (not_le.2 hcount)] at hend
    simp only [Except.map, Outcome.crashed, Outcome.andThen_of_none hlog.1] at hend
    subst hend
    exact ⟨rfl, hlog.2⟩

/-- A request to have the lines of a job in a file, where the job is loaded and its batch
returns. -/
theorem run_toFile {s : Surroundings} {arguments : List Text} {level : Option LogLevel}
    {path file : Text} {job : Job} {r : BatchResult}
    (hrequest : Invocation.read (pathExists s.files) arguments =
      .ok (.request level (.render ⟨path, some file, .jsonLines⟩)))
    (hfile : IsPlainName s.files file)
    (hload : JobFile.load s.environment {} path (JobFile.contentOf? s.files path) = .ok job)
    (hbatch : renderBatch (expand job.settings s.clock job.template) {} job.parameters = .ok r) :
    (r.outputs.length ≤ 10 ^ Number.maxDigits →
      (run s arguments).written = [(file, Text.join ['\n'] (linesFrom 0 r.outputs))] ∧
        (run s arguments).exitCode = (if none ∈ r.outputs then 1 else 0) ∧
        ∀ c ∈ (run s arguments).crash,
          c = .fault .loneSurrogate ∧ ∃ e ∈ r.errors.take 5, ¬ e.2.message.IsScalar) ∧
    (10 ^ Number.maxDigits < r.outputs.length →
      (run s arguments).crash = some (.fault .tooManyDigits) ∧
        (run s arguments).written = []) := by
  have hcontent : (JobFile.contentOf? s.files path).or (some []) =
      JobFile.contentOf? s.files path := by
    cases hfound : JobFile.contentOf? s.files path with
    | none =>
      rw [hfound] at hload
      cases hload
    | some t => rfl
  have hrun : run s arguments = renderJob s (level.getD job.settings.logLevel)
      ⟨path, some file, .jsonLines⟩ job
        (Outcome.start.log (logText (level.getD .warning) [.jobLoaded job.parameters.length])) := by
    simp only [run, hrequest, runInvocation, runRequest, runRender, hcontent, hload]
  exact renderJob_toFile hfile rfl hbatch hrun.symm

/-! ## A job alone -/

/-- Nothing is there but the file of a job. -/
def aloneWith (content : Text) : Surroundings := ⟨[("job.yaml".toText, content)], [], ⟨0, some 0⟩⟩

/-- The job rendered into a file of lines. -/
def runAlone (content : Text) : Outcome :=
  run (aloneWith content) ("render".toText :: toFile "out.jsonl".toText "job.yaml".toText)

section

variable {content : Text}

theorem request_alone :
    Invocation.read (pathExists (aloneWith content).files)
      ("render".toText :: toFile "out.jsonl".toText "job.yaml".toText) =
        .ok (.request none (.render ⟨"job.yaml".toText, some "out.jsonl".toText, .jsonLines⟩)) := by
  refine read_render_toFile ?_ (by decide)
  rfl

theorem isPlainName_alone : IsPlainName (aloneWith content).files "out.jsonl".toText where
  noSlash := by decide
  noSurrogate := Text.isScalar_ofChars _
  noDirectory := rfl

theorem load_alone {ts : List Yaml.Token} {n : Yaml.Node} {entries substituted : Schema.Entries}
    {job : Job} (hlines : JobFile.unifyLineEnds content = content)
    (htokens : Yaml.tokens content = .ok ts) (hnode : Yaml.Node.ofTokens? ts = .ok (some n))
    (hvalue : n.value = .ok (.dict entries))
    (hsubstitute : JobFile.substitute [] {} entries = .ok substituted)
    (hbuild : JobFile.build substituted = .ok job) :
    JobFile.load (aloneWith content).environment {} "job.yaml".toText
      (JobFile.contentOf? (aloneWith content).files "job.yaml".toText) = .ok job := by
  have hcontent : JobFile.contentOf? (aloneWith content).files "job.yaml".toText = some content :=
    rfl
  have hextension : Text.lower (JobFile.extension "job.yaml".toText) = ".yaml".toText := by
    decide +kernel
  have hread : JobFile.read (aloneWith content).environment {} content = .ok job := by
    rw [JobFile.read, JobFile.readMapping, Yaml.read_of_node htokens hnode, hvalue]
    simp only [aloneWith, hsubstitute, hbuild]
  rw [hcontent]
  simp only [JobFile.load, hextension, true_or, if_true, hlines, hread]

end

/-- A job that is loaded and whose batch returns is rendered into a file with a plain name, whatever
its outputs are: the file has one line of JSON for each output, with its number, and the exit code
tells whether a set has failed. The line is read back as the output, its pairs of surrogates joined,
so as the output itself exactly if it has no such pair. Afterwards the run crashes only where it
prints the message of one of the first errors and that has a surrogate in it. A batch with so many
sets that a number of a set may not be written crashes before anything is written. -/
theorem run_writes_lines {s : Surroundings} {arguments : List Text} {level : Option LogLevel}
    {path file : Text} {job : Job} {r : BatchResult}
    (hrequest : Invocation.read (pathExists s.files) arguments =
      .ok (.request level (.render ⟨path, some file, .jsonLines⟩)))
    (hfile : IsPlainName s.files file)
    (hload : JobFile.load s.environment {} path (JobFile.contentOf? s.files path) = .ok job)
    (hbatch : renderBatch (expand job.settings s.clock job.template) {} job.parameters = .ok r) :
    (r.outputs.length ≤ 10 ^ Number.maxDigits →
      (∃ text, (run s arguments).written = [(file, text)] ∧ Lists text r.outputs) ∧
        (run s arguments).exitCode = (if none ∈ r.outputs then 1 else 0) ∧
        ∀ c ∈ (run s arguments).crash,
          c = .fault .loneSurrogate ∧ ∃ e ∈ r.errors.take 5, ¬ e.2.message.IsScalar) ∧
    (10 ^ Number.maxDigits < r.outputs.length →
      (run s arguments).crash = some (.fault .tooManyDigits) ∧
        (run s arguments).written = []) := by
  obtain ⟨hwritten, hcrashed⟩ := run_toFile hrequest hfile hload hbatch
  refine ⟨fun hcount => ?_, hcrashed⟩
  obtain ⟨htext, hrest⟩ := hwritten hcount
  exact ⟨⟨_, htext, lists_join_linesFrom hcount⟩, hrest⟩

/-- A quote and a line feed in the output of the first set, and a second set that fails. -/
theorem run_writes_lines_quote :
    let o := runAlone
      "template: \"\x7b[\x7b\x7d]\x7d\\n\"\nparameters: [['h\"i', 1], [h, x]]".toText
    o.crash = none ∧
      (∃ text, o.written = [("out.jsonl".toText, text)] ∧ Lists text [some "\"i\n".toText, none]) ∧
      o.exitCode = 1 := by
  intro o
  let n : Yaml.Node := .mapping .mapping
    [(.scalar .text "template".toText, .scalar .text "\x7b[\x7b\x7d]\x7d\n".toText),
      (.scalar .text "parameters".toText,
        .sequence .sequence
          [.sequence .sequence [.scalar .text "h\"i".toText, .scalar .int "1".toText],
            .sequence .sequence [.scalar .text "h".toText, .scalar .text "x".toText]])]
  have htokens : Yaml.tokens
      "template: \"\x7b[\x7b\x7d]\x7d\\n\"\nparameters: [['h\"i', 1], [h, x]]".toText = .ok
      [.blockMappingStart, .key, .scalar "template".toText true, .value,
        .scalar "\x7b[\x7b\x7d]\x7d\n".toText false, .key, .scalar "parameters".toText true, .value,
        .flowSequenceStart, .flowSequenceStart, .scalar "h\"i".toText false, .flowEntry,
        .scalar "1".toText true, .flowSequenceEnd, .flowEntry, .flowSequenceStart,
        .scalar "h".toText true, .flowEntry, .scalar "x".toText true, .flowSequenceEnd,
        .flowSequenceEnd, .blockEnd] := by
    decide +kernel
  have hvalue : n.value = .ok (.dict
      [(.text "template".toText, .text "\x7b[\x7b\x7d]\x7d\n".toText),
        (.text "parameters".toText, .list
          [.list [.text "h\"i".toText, .int 1], .list [.text "h".toText, .text "x".toText]])]) := by
    simp only [n, Yaml.Node.value, Yaml.Node.entries, Yaml.Node.keyValue, Yaml.Node.values,
      Yaml.Node.valueOfText]
    rfl
  let job : Job := ⟨"\x7b[\x7b\x7d]\x7d\n".toText,
    [[.text "h\"i".toText, .int 1], [.text "h".toText, .text "x".toText]], {}⟩
  have hload := @load_alone _ _ n _ _ job (by decide +kernel) htokens rfl hvalue rfl rfl
  let r : BatchResult :=
    ⟨[some "\"i\n".toText, none], [(1, .notIntegerReference "x".toText)], 2, 100, false, [2]⟩
  have hbatch : renderBatch (expand job.settings ⟨0, some 0⟩ job.template) {} job.parameters =
      .ok r := by
    decide +kernel
  have hfew : r.outputs.length ≤ Number.maxDigits := by decide
  have hlimit : Number.maxDigits < 10 ^ Number.maxDigits := Nat.lt_pow_self (by decide)
  obtain ⟨hwritten, hcode, hcrash⟩ :=
    (run_writes_lines request_alone isPlainName_alone hload hbatch).1 (hfew.trans hlimit.le)
  refine ⟨Option.eq_none_iff_forall_not_mem.2 fun c hc => ?_, hwritten, hcode⟩
  obtain ⟨-, e, he, hmessage⟩ := hcrash c hc
  cases List.mem_singleton.1 he
  exact hmessage (by decide)

/-- Two surrogates that are written one behind the other are not read back as the two. -/
theorem run_writes_lines_pair :
    let content := "template: '\x7b%c\x7d\x7b%c\x7d'\nparameters: [[55296, 56320]]".toText
    let s := aloneWith content
    ∃ job r,
      JobFile.load s.environment {} "job.yaml".toText
        (JobFile.contentOf? s.files "job.yaml".toText) = .ok job ∧
      renderBatch (expand job.settings s.clock job.template) {} job.parameters = .ok r ∧
      r.outputs = [some [.surrogate 0, .surrogate 1024]] ∧
      ¬ ∃ text, (runAlone content).written = [("out.jsonl".toText, text)] ∧
        ∀ i output, r.outputs[i]? = some output →
          ∃ line, text.lines[i]? = some line ∧ Json.read line = .ok (lineValue i output) := by
  intro content s
  let n : Yaml.Node := .mapping .mapping
    [(.scalar .text "template".toText, .scalar .text "\x7b%c\x7d\x7b%c\x7d".toText),
      (.scalar .text "parameters".toText,
        .sequence .sequence
          [.sequence .sequence [.scalar .int "55296".toText, .scalar .int "56320".toText]])]
  have htokens : Yaml.tokens content = .ok
      [.blockMappingStart, .key, .scalar "template".toText true, .value,
        .scalar "\x7b%c\x7d\x7b%c\x7d".toText false, .key, .scalar "parameters".toText true, .value,
        .flowSequenceStart, .flowSequenceStart, .scalar "55296".toText true, .flowEntry,
        .scalar "56320".toText true, .flowSequenceEnd, .flowSequenceEnd, .blockEnd] := by
    decide +kernel
  have hvalue : n.value = .ok (.dict
      [(.text "template".toText, .text "\x7b%c\x7d\x7b%c\x7d".toText),
        (.text "parameters".toText, .list [.list [.int 55296, .int 56320]])]) := by
    simp only [n, Yaml.Node.value, Yaml.Node.entries, Yaml.Node.keyValue, Yaml.Node.values,
      Yaml.Node.valueOfText]
    rfl
  let job : Job := ⟨"\x7b%c\x7d\x7b%c\x7d".toText, [[.int 55296, .int 56320]], {}⟩
  have hload := @load_alone _ _ n _ _ job (by decide +kernel) htokens rfl hvalue rfl rfl
  let r : BatchResult := ⟨[some [.surrogate 0, .surrogate 1024]], [], 1, 100, false, [1]⟩
  have hbatch : renderBatch (expand job.settings s.clock job.template) {} job.parameters =
      .ok r := by
    decide +kernel
  have hone : 1 ≤ 10 ^ Number.maxDigits := Nat.one_le_pow _ _ (by decide)
  obtain ⟨hwritten, -⟩ := (run_toFile request_alone isPlainName_alone hload hbatch).1 hone
  obtain ⟨line, shown, hline, hread, hshown, hself⟩ :=
    (@lists_join_linesFrom r.outputs hone).read 0 _ rfl
  refine ⟨job, r, hload, hbatch, rfl, ?_⟩
  rintro ⟨text, htext, hlines⟩
  cases hwritten.symm.trans htext
  obtain ⟨line', hline', hread'⟩ := hlines 0 _ rfl
  cases hline.symm.trans hline'
  have hsame := lineValue_injective (Except.ok.inj (hread.symm.trans hread'))
  exact hself.1 hsame _ rfl (.head (by decide) (by decide))

end CommandLine

end BraceTemplate
