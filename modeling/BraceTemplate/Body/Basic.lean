import BraceTemplate.Body.Directive

/-!
# BraceTemplate.Body.Basic

The body of a token, compiled: which value the token starts from and which operators it applies to
it. A body is a run of directives, each with at most one comma behind it; the last directive that
chooses a base wins, and the operators keep their order.
-/

namespace BraceTemplate

/-- The value that a token starts from. -/
inductive Base where
  /-- The next parameter in order. -/
  | next
  /-- The current time. -/
  | clock
  /-- The parameter at a position. -/
  | position (n : Nat)
  deriving DecidableEq, Repr

structure Body where
  /-- The body as it is written. -/
  raw : Text
  base : Base
  operators : List Operator
  deriving DecidableEq, Repr

/-- What a directive does: it may choose a base and may add an operator. -/
structure Step where
  base : Option Base
  operator : Option Operator

namespace Base

/-- Position 0 stands for the next parameter. -/
def ofPosition (n : Nat) : Base := if n = 0 then next else position n

end Base

namespace Directive

/-- The date format of a directive that gives none: date and time to the millisecond, with the
offset. -/
def defaultFormat : Text := "yyyy-MM-dd'T'HH:mm:ss.SSSX".toText

/-- Takes each backslash away that stands before a character, line feeds excepted. -/
def unescape : Text → Text
  | [] => []
  | [c] => [c]
  | c :: d :: t => if c = '\\' ∧ d ≠ '\n' then d :: unescape t else c :: unescape (d :: t)

/-- The operator of a codec keyword in lower case. -/
def codecOperator? (word : Text) : Option Operator :=
  match Text.string (word.map CodePoint.toLower) with
  | "urlencode" => some .urlEncode
  | "urldecode" => some .urlDecode
  | "b64encode" => some .base64Encode
  | "base64encode" => some .base64Encode
  | "b64decode" => some .base64Decode
  | "base64decode" => some .base64Decode
  | _ => none

def ofOperator (o : Operator) : Except Fault Step := .ok ⟨none, some o⟩

/-- The operator with two operands that are written as given. -/
def ofOperands (operator : Reference → Reference → Operator) (first second : Text) :
    Except Fault Step :=
  match Reference.parse first with
  | .error f => .error f
  | .ok a =>
    match Reference.parse second with
    | .error f => .error f
    | .ok b => ofOperator (operator a b)

/-- The date operator of a format and a zone; an empty format is the default one. -/
def dateOperator (format zone : Option Text) : Except Fault Operator :=
  let written := match format with
    | none => defaultFormat
    | some [] => defaultFormat
    | some f => f
  match Reference.parse (unescape written) with
  | .error f => .error f
  | .ok pattern =>
    match zone with
    | none => .ok (.date pattern (.literal none))
    | some z =>
      match Reference.parse z with
      | .error f => .error f
      | .ok zone => .ok (.date pattern zone)

def compile : Directive → Except Fault Step
  | position digits =>
    match Number.readDigits digits with
    | .error f => .error f
    | .ok n => .ok ⟨some (Base.ofPosition n), none⟩
  | trim _ => ofOperator .trim
  | lower _ => ofOperator .lower
  | upper _ => ofOperator .upper
  | codec word =>
    match codecOperator? word with
    | some o => ofOperator o
    | none => .error .unknownCodec
  | substring start none =>
    match Reference.parse start with
    | .error f => .error f
    | .ok a => ofOperator (.slice a (.literal (some ['-', '1'])))
  | substring start (some (mark, bound)) =>
    ofOperands (if mark = ',' then .slice else .sliceLength) start bound
  | extract pattern group => ofOperands .extract pattern group
  | printf specifier => ofOperator (.printf (.literal (some specifier)))
  | date isClock _ detail =>
    match dateOperator (detail.map (·.1)) (detail.bind (·.2)) with
    | .error f => .error f
    | .ok o => .ok ⟨if isClock then some .clock else none, some o⟩

def compileAll : List Directive → Except Fault (List Step)
  | [] => .ok []
  | d :: ds =>
    match d.compile with
    | .error f => .error f
    | .ok s =>
      match compileAll ds with
      | .error f => .error f
      | .ok ss => .ok (s :: ss)

end Directive

namespace Body

def ofSteps (raw : Text) (steps : List Step) : Body :=
  ⟨raw, (steps.filterMap (·.base)).getLast?.getD .next, steps.filterMap (·.operator)⟩

/-- Without a comma at the start, and whether there was one. -/
def dropComma : Text → Bool × Text
  | ',' :: t => (true, t)
  | t => (false, t)

theorem length_dropComma_le (t : Text) : (dropComma t).2.length ≤ t.length := by
  unfold dropComma
  split <;> simp

/-- The directives that come first, each with whether a comma stands behind it, and what follows
them. -/
def readDirectives (t : Text) : List (Directive × Bool) × Text :=
  match _h : Directive.read? t with
  | none => ([], t)
  | some (d, rest) =>
    let next := readDirectives (dropComma rest).2
    ((d, (dropComma rest).1) :: next.1, next.2)
termination_by t.length
decreasing_by exact Nat.lt_of_le_of_lt (length_dropComma_le rest) (Directive.length_lt_of_read? _h)

/-- Directives as they are written. -/
def source (directives : List (Directive × Bool)) : Text :=
  directives.flatMap fun d => d.1.source ++ (if d.2 then [','] else [])

/-- The body that comes first and ends with a closing brace, and what follows the brace; none if
something else stands among the directives. -/
def parse (t : Text) : Except Fault (Option (Body × Text)) :=
  match Directive.compileAll ((readDirectives t).1.map (·.1)) with
  | .error f => .error f
  | .ok steps =>
    match (readDirectives t).2 with
    | '\x7d' :: rest => .ok (some (ofSteps (source (readDirectives t).1) steps, rest))
    | _ => .ok none

/-- A whole body, without its braces. -/
def compile (t : Text) : Except Fault (Option Body) :=
  match parse (t ++ [.char '\x7d']) with
  | .error f => .error f
  | .ok (some (body, [])) => .ok (some body)
  | .ok _ => .ok none

theorem source_append_of_readDirectives (t : Text) :
    source (readDirectives t).1 ++ (readDirectives t).2 = t := by
  fun_induction readDirectives t with
  | case1 => rfl
  | case2 t d rest h next ih =>
    have hc : (if (dropComma rest).1 then [.char ','] else []) ++ (dropComma rest).2 = rest := by
      unfold dropComma
      split <;> rfl
    simp only [source, List.flatMap_cons, List.append_assoc] at ih ⊢
    rw [ih, hc]
    exact (Directive.source_append_of_read? h).1

theorem raw_append_of_parse {t rest : Text} {b : Body} (h : parse t = .ok (some (b, rest))) :
    b.raw ++ .char '\x7d' :: rest = t := by
  unfold parse at h
  split at h
  · simp at h
  · split at h
    · next hr =>
      simp only [Except.ok.injEq, Option.some.injEq, Prod.mk.injEq] at h
      obtain ⟨rfl, rfl⟩ := h
      have := source_append_of_readDirectives t
      rw [hr] at this
      exact this
    · simp at h

theorem length_lt_of_parse {t rest : Text} {b : Body} (h : parse t = .ok (some (b, rest))) :
    rest.length < t.length := by
  rw [← raw_append_of_parse h, List.length_append, List.length_cons]
  omega

end Body

end BraceTemplate
