import BraceTemplate.Expansion

/-!
# BraceTemplate.Report

What can be said about a template before it is expanded: the tokens, what looks wrong in it, which
literal operands make every expansion fail, and which parameters it refers to.
-/

namespace BraceTemplate

inductive ReportLevel where
  /-- The structure of the tokens only. -/
  | permissive
  /-- Literal operands too. -/
  | standard
  /-- Warnings are errors. -/
  | strict
  deriving DecidableEq, Repr

inductive Problem where
  /-- A brace that opens no token. -/
  | strayBrace (snippet : Text) (offset : Nat)
  | blockReopened (offset : Nat)
  | closeWithoutBlock (offset : Nat)
  /-- A token with an operand that fails in every expansion. -/
  | operand (source : Text) (offset : Nat) (cause : ExpansionError)
  deriving DecidableEq, Repr

structure Report where
  errors : List Problem
  warnings : List Problem
  /-- Replacements and markers as they are written. -/
  tokens : List Text
  length : Nat
  lines : Nat
  /-- References to the next parameter. -/
  sequentialReferences : Nat
  /-- The highest fixed position. -/
  highestPosition : Int
  usesClock : Bool
  deriving DecidableEq, Repr

namespace ReportLevel

def ofName? (t : Text) : Option ReportLevel :=
  match Text.string t with
  | "permissive" => some permissive
  | "standard" => some standard
  | "strict" => some strict
  | _ => none

end ReportLevel

namespace Problem

def at_ (offset : Nat) : Text := " at offset ".toText ++ Number.natText offset

/-- The message, with or without the reason that a pattern does not compile. -/
def message (withReason : Bool) : Problem → Text
  | strayBrace snippet offset =>
    .char '\'' :: snippet ++ .char '\'' :: at_ offset ++
      " is not a valid token and will be copied as text".toText
  | blockReopened offset =>
    "Conditional block".toText ++ at_ offset ++ " also closes the previous block".toText
  | closeWithoutBlock offset => "Close marker".toText ++ at_ offset ++ " has no open block".toText
  | operand source offset cause =>
    source ++ at_ offset ++ ": ".toText ++
      (match cause with
        | .invalidExtraction pattern reason position =>
          "invalid pattern".toText ++
            (if withReason then
              ": ".toText ++ ExpansionError.patternReason pattern reason position
            else [])
        | e => e.message)

end Problem

namespace Report

def isValid (r : Report) : Bool := r.errors.isEmpty

/-- The report on an empty template. -/
def empty : Report := ⟨[], [], [], 0, 0, 0, 0, false⟩

/-- Braces that literal text opens, each with the text up to the next closing brace, or with the
next characters if there is none. -/
def strayBraces (offset : Nat) : Text → List Problem
  | [] => []
  | c :: t =>
    let rest := strayBraces (offset + 1) t
    if c = '\x7b' then
      let snippet :=
        if t.contains '\x7d' then c :: t.takeWhile (· ≠ .char '\x7d') ++ [.char '\x7d']
        else (c :: t).take 20
      .strayBrace snippet offset :: rest
    else rest

variable [Packages]

/-- The error that a date's literal operands give, found by a trial at the present moment. -/
def checkDate (now : Calendar.Moment) (locale : Text) (pattern zone : Reference) :
    Except Fault (Option ExpansionError) :=
  let zone : Except ExpansionError Calendar.Zone := match zone with
    | .literal (some (c :: cs)) => Calendar.resolveZone (some (c :: cs)) none
    | _ => .ok Calendar.Zone.utc
  match zone with
  | .error e => .ok (some e)
  | .ok z =>
    match pattern with
    | .literal (some (c :: cs)) =>
      match Calendar.formatDate now (c :: cs) z locale with
      | .ok _ => .ok none
      | .error (.expansion e) => .ok (some e)
      | .error (.fault f) => .error f
    | _ => .ok none

def checkOperator (now : Calendar.Moment) (locale : Text) :
    Operator → Except Fault (Option ExpansionError)
  | .extract (.literal (some pattern)) _ =>
    match Packages.engine.compile pattern with
    | .ok _ => .ok none
    | .error (.invalid reason position) => .ok (some (.invalidExtraction pattern reason position))
    | .error (.fault f) => .error f
  | .date pattern zone => checkDate now locale pattern zone
  | _ => .ok none

/-- The errors that the operators of a body give in every expansion. -/
def checkOperators (now : Calendar.Moment) (locale : Text) :
    List Operator → Except Fault (List ExpansionError)
  | [] => .ok []
  | o :: os =>
    match checkOperator now locale o with
    | .error f => .error f
    | .ok e =>
      match checkOperators now locale os with
      | .error f => .error f
      | .ok es => .ok (e.toList ++ es)

/-- Counts a reference to a parameter. -/
def countReference (r : Report) : Reference → Report
  | .literal _ => r
  | .next => { r with sequentialReferences := r.sequentialReferences + 1 }
  | .fixed n => { r with highestPosition := max r.highestPosition n }

def countBase (r : Report) : Base → Report
  | .next => { r with sequentialReferences := r.sequentialReferences + 1 }
  | .clock => { r with usesClock := true }
  | .position n => { r with highestPosition := max r.highestPosition n }

/-- Counts the references of a body that is evaluated. -/
def countBody (r : Report) (b : Body) : Report :=
  (b.operators.flatMap (·.operands)).foldl countReference (r.countBase b.base)

/-- A report under way: where the next token begins, and whether a block is open. -/
structure Walk where
  report : Report
  offset : Nat
  isOpen : Bool

def Walk.warn (w : Walk) (ps : List Problem) : Walk :=
  { w with report := { w.report with warnings := w.report.warnings ++ ps } }

def Walk.pass (w : Walk) (t : Token) (isOpen : Bool) : Walk :=
  { w with
    report := if t.isLiteral then w.report
      else { w.report with tokens := w.report.tokens ++ [t.source] }
    offset := w.offset + t.source.length
    isOpen := isOpen }

/-- Takes a token into the report. -/
def visit (level : ReportLevel) (now : Calendar.Moment) (locale : Text) (w : Walk) (t : Token) :
    Except Fault Walk :=
  match t with
  | .literal text => .ok ((w.warn (strayBraces w.offset text)).pass t w.isOpen)
  | .blockOpen =>
    .ok ((if w.isOpen then w.warn [.blockReopened w.offset] else w).pass t true)
  | .blockClose =>
    .ok ((if w.isOpen then w else w.warn [.closeWithoutBlock w.offset]).pass t false)
  | .replacement escape body =>
    if escape = .verbatim then .ok (w.pass t w.isOpen)
    else
      let counted : Walk := { w with report := w.report.countBody body }
      if level = .permissive then .ok (counted.pass t w.isOpen)
      else
        match checkOperators now locale body.operators with
        | .error f => .error f
        | .ok causes =>
          let errors := causes.map (Problem.operand t.source w.offset)
          .ok (Walk.pass { counted with
            report :=
              { counted.report with errors := counted.report.errors ++ errors } } t w.isOpen)

def visitAll (level : ReportLevel) (now : Calendar.Moment) (locale : Text) :
    Walk → List Token → Except Fault Walk
  | w, [] => .ok w
  | w, t :: ts =>
    match visit level now locale w t with
    | .error f => .error f
    | .ok w => visitAll level now locale w ts

end Report

/-- The report on a template at a moment. -/
def validate [Packages] (level : ReportLevel) (settings : Settings) (now : Calendar.Moment)
    (template : Text) : Except Fault Report :=
  let s := scan template
  match Report.visitAll level now settings.locale ⟨.empty, 0, false⟩ s.tokens with
  | .error f => .error f
  | .ok w =>
    match s.fault with
    | some f => .error f
    | none =>
      let r := { w.report with
        length := template.length
        lines := if template.isEmpty then 0 else template.count (.char '\n') + 1 }
      .ok (if level = .strict then { r with errors := r.errors ++ r.warnings, warnings := [] }
      else r)

end BraceTemplate
