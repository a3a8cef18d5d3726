import BraceTemplate.Operator.Basic
import BraceTemplate.Text.Case

/-!
# BraceTemplate.Body.Directive

One directive of a token's body: a position, a keyword, a substring, an extraction, a printf
specifier or a date, as it is written. Keywords are read in any case. Reading a directive and
writing its source again gives back the text that was read (`source_append_of_read?`).
-/

namespace BraceTemplate

inductive Directive where
  /-- Decimal digits of any script. -/
  | position (digits : Text)
  | trim (word : Text)
  | lower (word : Text)
  | upper (word : Text)
  | codec (word : Text)
  /-- A lower bound, and behind a comma or a colon a second bound. -/
  | substring (start : Text) (bound : Option (CodePoint × Text))
  | extract (pattern group : Text)
  | printf (specifier : Text)
  /-- A format, and behind a format a zone; a clock directive formats the current time. -/
  | date (isClock : Bool) (word : Text) (format : Option (Text × Option Text))
  deriving DecidableEq, Repr

namespace Directive

/-- The directive as it is written. -/
def source : Directive → Text
  | position digits => digits
  | trim word => word
  | lower word => word
  | upper word => word
  | codec word => word
  | substring start none => .char '[' :: start ++ [.char ']']
  | substring start (some (mark, bound)) => .char '[' :: start ++ mark :: bound ++ [.char ']']
  | extract pattern group => .char '[' :: .char '/' :: pattern ++ .char '/' :: group ++ [.char ']']
  | printf specifier => specifier
  | date _ word none => word
  | date _ word (some (format, none)) => word ++ .char '(' :: format ++ [.char ')']
  | date _ word (some (format, some zone)) =>
    word ++ .char '(' :: format ++ .char ')' :: .char '[' :: zone ++ [.char ']']

/-- A keyword in any case, as it is written, and what follows it. -/
def readWord? : Text → Text → Option (Text × Text)
  | [], t => some ([], t)
  | _ :: _, [] => none
  | letter :: word, c :: t =>
    if Text.isLetterAnyCase letter c then
      match readWord? word t with
      | some (w, rest) => some (c :: w, rest)
      | none => none
    else none

/-- The first keyword of a list that is next. -/
def readAnyWord? (words : List String) (t : Text) : Option (Text × Text) :=
  words.findSome? fun w => readWord? w.toText t

/-- At least one character of a class, and what follows the longest run of them. -/
def readRun? (p : CodePoint → Bool) (t : Text) : Option (Text × Text) :=
  if (t.takeWhile p).isEmpty then none else some (t.takeWhile p, t.dropWhile p)

/-- Digits between braces, or nothing between them, with the braces. -/
def readIndirect? : Text → Option (Text × Text)
  | '\x7b' :: t =>
    match t.dropWhile Text.isDecimal with
    | '\x7d' :: rest => some (.char '\x7b' :: t.takeWhile Text.isDecimal ++ [.char '\x7d'], rest)
    | _ => none
  | _ => none

/-- A run of characters of a class or an indirect operand. -/
def readOperand? (p : CodePoint → Bool) (t : Text) : Option (Text × Text) :=
  match readRun? p t with
  | some r => some r
  | none => readIndirect? t

/-- A second bound, which may be negative. -/
def readBound? : Text → Option (Text × Text)
  | '-' :: t =>
    match readRun? Text.isDecimal t with
    | some (digits, rest) => some ('-' :: digits, rest)
    | none => none
  | t => readOperand? Text.isDecimal t

/-- Text up to a closing mark; a backslash takes the next character with it, which is no line
feed. -/
def readEscaped? (stop : CodePoint) : Text → Option (Text × Text)
  | [] => none
  | [c] => if c = stop ∧ c ≠ '\\' then some ([], []) else none
  | c :: d :: t =>
    if c = '\\' then
      if d = '\n' then none
      else
        match readEscaped? stop t with
        | some (w, rest) => some (c :: d :: w, rest)
        | none => none
    else if c = stop then some ([], d :: t)
    else
      match readEscaped? stop (d :: t) with
      | some (w, rest) => some (c :: w, rest)
      | none => none

def readPosition? (t : Text) : Option (Directive × Text) :=
  (readRun? Text.isDecimal t).map fun r => (position r.1, r.2)

def readTrim? (t : Text) : Option (Directive × Text) :=
  (readAnyWord? ["trim"] t).map fun r => (trim r.1, r.2)

def readLower? (t : Text) : Option (Directive × Text) :=
  (readAnyWord? ["tolower", "lower"] t).map fun r => (lower r.1, r.2)

def readUpper? (t : Text) : Option (Directive × Text) :=
  (readAnyWord? ["toupper", "upper"] t).map fun r => (upper r.1, r.2)

def readCodec? (t : Text) : Option (Directive × Text) :=
  (readAnyWord? ["urlencode", "urldecode", "b64encode", "b64decode", "base64encode",
    "base64decode"] t).map fun r => (codec r.1, r.2)

/-- The group behind an extraction's pattern, up to the closing bracket. -/
def readGroup? (t : Text) : Option (Text × Text) :=
  match t.dropWhile (· ≠ .char ']') with
  | ']' :: rest => some (t.takeWhile (· ≠ .char ']'), rest)
  | _ => none

def readBrackets? : Text → Option (Directive × Text)
  | '[' :: '/' :: t =>
    match readEscaped? '/' t with
    | some (pattern, rest) =>
      match readGroup? rest with
      | some (group, rest) => some (extract pattern group, rest)
      | none => none
    | none => none
  | '[' :: t =>
    match readOperand? Text.isDecimal t with
    | some (start, ']' :: rest) => some (substring start none, rest)
    | some (start, mark :: rest) =>
      if mark = ',' ∨ mark = ':' then
        match readBound? rest with
        | some (bound, ']' :: rest) => some (substring start (some (mark, bound)), rest)
        | _ => none
      else none
    | _ => none
  | _ => none

def isPrintfFlag (c : CodePoint) : Bool :=
  c = '-' || c = '#' || c = '+' || c = ' ' || c = '0' || c = ',' || c = '('

def printfLetters : Text := "bhscdoxefga".toText

/-- At most one flag, and what follows it. -/
def splitFlag : Text → Text × Text
  | [] => ([], [])
  | c :: t => if isPrintfFlag c then ([c], t) else ([], c :: t)

/-- A point with digits behind it, or nothing, and what follows. -/
def splitPrecision : Text → Text × Text
  | '.' :: t =>
    match readRun? Text.isDecimal t with
    | some (digits, rest) => ('.' :: digits, rest)
    | none => ([], '.' :: t)
  | t => ([], t)

def readPrintf? : Text → Option (Directive × Text)
  | '%' :: t =>
    let flag := splitFlag t
    let precision := splitPrecision (flag.2.dropWhile Text.isDecimal)
    match precision.2 with
    | c :: rest =>
      if printfLetters.any (Text.isLetterAnyCase · c) then
        some (printf (.char '%' :: flag.1 ++ flag.2.takeWhile Text.isDecimal ++ precision.1 ++ [c]),
          rest)
      else none
    | [] => none
  | _ => none

def isZoneChar (c : CodePoint) : Bool := Text.isWord c || c = '/' || c = '+' || c = '-'

/-- A zone between brackets, without them. -/
def readZone? : Text → Option (Text × Text)
  | '[' :: t =>
    match readOperand? isZoneChar t with
    | some (zone, ']' :: rest) => some (zone, rest)
    | _ => none
  | _ => none

/-- The format and the zone that may follow a date keyword. -/
def readFormat : Text → Option (Text × Option Text) × Text
  | '(' :: t =>
    match readEscaped? ')' t with
    | some (format, rest) =>
      match readZone? rest with
      | some (zone, rest) => (some (format, some zone), rest)
      | none => (some (format, none), rest)
    | none => (none, '(' :: t)
  | t => (none, t)

def readDate? (t : Text) : Option (Directive × Text) :=
  let word := match readAnyWord? ["date"] t with
    | some r => some (false, r)
    | none => (readAnyWord? ["now"] t).map fun r => (true, r)
  word.map fun (isClock, w, rest) =>
    (date isClock w (readFormat rest).1, (readFormat rest).2)

/-- The forms of a directive, in the order in which they are tried. -/
def readers : List (Text → Option (Directive × Text)) :=
  [readPosition?, readTrim?, readLower?, readUpper?, readCodec?, readBrackets?, readPrintf?,
    readDate?]

/-- The directive that is next, and what follows it. -/
def read? (t : Text) : Option (Directive × Text) := readers.findSome? fun r => r t

/-! ## What is read is what was written -/

theorem append_of_readWord? {word t w rest : Text} (h : readWord? word t = some (w, rest)) :
    w ++ rest = t ∧ w.length = word.length := by
  induction word generalizing t w with
  | nil => simp [readWord?] at h; simp [← h.1, h.2]
  | cons letter word ih =>
    cases t with
    | nil => simp [readWord?] at h
    | cons c t =>
      simp only [readWord?] at h
      split at h
      · split at h
        · next w' rest' hw =>
          simp only [Option.some.injEq, Prod.mk.injEq] at h
          obtain ⟨rfl, rfl⟩ := h
          obtain ⟨h1, h2⟩ := ih hw
          simp [h1, h2]
        · simp at h
      · simp at h

theorem append_of_readAnyWord? {words : List String} {t w rest : Text}
    (hne : ∀ x ∈ words, x.toText ≠ []) (h : readAnyWord? words t = some (w, rest)) :
    w ++ rest = t ∧ w ≠ [] := by
  obtain ⟨x, hx, hr⟩ := List.exists_of_findSome?_eq_some h
  obtain ⟨h1, h2⟩ := append_of_readWord? hr
  refine ⟨h1, fun hw => hne x hx ?_⟩
  rw [hw] at h2
  exact List.eq_nil_of_length_eq_zero h2.symm

theorem append_of_readRun? {p : CodePoint → Bool} {t w rest : Text}
    (h : readRun? p t = some (w, rest)) : w ++ rest = t ∧ w ≠ [] := by
  simp only [readRun?] at h
  split at h
  · simp at h
  · next hne =>
    simp only [Option.some.injEq, Prod.mk.injEq] at h
    obtain ⟨rfl, rfl⟩ := h
    exact ⟨List.takeWhile_append_dropWhile, fun hw => hne (by simp [hw])⟩

theorem append_of_readIndirect? {t w rest : Text} (h : readIndirect? t = some (w, rest)) :
    w ++ rest = t ∧ w ≠ [] := by
  unfold readIndirect? at h
  split at h
  · next t' =>
    split at h
    · next rest' hd =>
      simp only [Option.some.injEq, Prod.mk.injEq] at h
      obtain ⟨rfl, rfl⟩ := h
      have := List.takeWhile_append_dropWhile (p := Text.isDecimal) (l := t')
      rw [hd] at this
      simp [this]
    · simp at h
  · simp at h

theorem append_of_readOperand? {p : CodePoint → Bool} {t w rest : Text}
    (h : readOperand? p t = some (w, rest)) : w ++ rest = t ∧ w ≠ [] := by
  unfold readOperand? at h
  split at h
  · next r hr =>
    simp only [Option.some.injEq] at h
    subst h
    exact append_of_readRun? hr
  · exact append_of_readIndirect? h

theorem append_of_readBound? {t w rest : Text} (h : readBound? t = some (w, rest)) :
    w ++ rest = t := by
  unfold readBound? at h
  split at h
  · split at h
    · next hr =>
      simp only [Option.some.injEq, Prod.mk.injEq] at h
      obtain ⟨rfl, rfl⟩ := h
      simp [(append_of_readRun? hr).1]
    · simp at h
  · exact (append_of_readOperand? h).1

theorem append_of_readEscaped? {stop : CodePoint} {t w rest : Text}
    (h : readEscaped? stop t = some (w, rest)) : w ++ stop :: rest = t := by
  fun_induction readEscaped? stop t generalizing w rest with
  | case1 => simp at h
  | case2 c hc =>
    simp only [Option.some.injEq, Prod.mk.injEq] at h
    obtain ⟨rfl, rfl⟩ := h
    simp [hc.1]
  | case3 => simp at h
  | case4 => simp at h
  | case5 _ _ _ w' rest' hr ih =>
    simp only [Option.some.injEq, Prod.mk.injEq] at h
    obtain ⟨rfl, rfl⟩ := h
    simp [ih hr]
  | case6 => simp at h
  | case7 =>
    simp only [Option.some.injEq, Prod.mk.injEq] at h
    obtain ⟨rfl, rfl⟩ := h
    rfl
  | case8 _ _ _ _ _ w' rest' hr ih =>
    simp only [Option.some.injEq, Prod.mk.injEq] at h
    obtain ⟨rfl, rfl⟩ := h
    simp [ih hr]
  | case9 => simp at h

theorem append_of_readGroup? {t w rest : Text} (h : readGroup? t = some (w, rest)) :
    w ++ .char ']' :: rest = t := by
  unfold readGroup? at h
  split at h
  · next hd =>
    simp only [Option.some.injEq, Prod.mk.injEq] at h
    obtain ⟨rfl, rfl⟩ := h
    rw [← hd]
    exact List.takeWhile_append_dropWhile
  · simp at h

theorem append_of_readZone? {t w rest : Text} (h : readZone? t = some (w, rest)) :
    .char '[' :: w ++ .char ']' :: rest = t := by
  unfold readZone? at h
  split at h
  · split at h
    · next hr =>
      simp only [Option.some.injEq, Prod.mk.injEq] at h
      obtain ⟨rfl, rfl⟩ := h
      simp [(append_of_readOperand? hr).1]
    · simp at h
  · simp at h

theorem append_splitFlag (t : Text) : (splitFlag t).1 ++ (splitFlag t).2 = t := by
  cases t with
  | nil => rfl
  | cons c t => simp only [splitFlag]; split <;> rfl

theorem append_splitPrecision (t : Text) : (splitPrecision t).1 ++ (splitPrecision t).2 = t := by
  unfold splitPrecision
  split
  · split
    · next hr => simp [(append_of_readRun? hr).1]
    · rfl
  · rfl

theorem source_of_readBrackets? {t rest : Text} {d : Directive}
    (h : readBrackets? t = some (d, rest)) : d.source ++ rest = t ∧ d.source ≠ [] := by
  unfold readBrackets? at h
  split at h
  · split at h
    · next hp =>
      split at h
      · next hg =>
        simp only [Option.some.injEq, Prod.mk.injEq] at h
        obtain ⟨rfl, rfl⟩ := h
        simp [source, append_of_readGroup? hg, append_of_readEscaped? hp]
      · simp at h
    · simp at h
  · split at h
    · next hs =>
      simp only [Option.some.injEq, Prod.mk.injEq] at h
      obtain ⟨rfl, rfl⟩ := h
      simp [source, (append_of_readOperand? hs).1]
    · next hs =>
      split at h
      · split at h
        · next hb =>
          simp only [Option.some.injEq, Prod.mk.injEq] at h
          obtain ⟨rfl, rfl⟩ := h
          simp [source, append_of_readBound? hb, (append_of_readOperand? hs).1]
        · simp at h
      · simp at h
    · simp at h
  · simp at h

theorem source_of_readPrintf? {t rest : Text} {d : Directive}
    (h : readPrintf? t = some (d, rest)) : d.source ++ rest = t ∧ d.source ≠ [] := by
  unfold readPrintf? at h
  split at h
  · next t' =>
    have h1 := append_splitFlag t'
    have h2 := List.takeWhile_append_dropWhile (p := Text.isDecimal) (l := (splitFlag t').2)
    have h3 := append_splitPrecision ((splitFlag t').2.dropWhile Text.isDecimal)
    dsimp only at h
    split at h
    · next c rest' hc =>
      split at h
      · simp only [Option.some.injEq, Prod.mk.injEq] at h
        obtain ⟨rfl, rfl⟩ := h
        rw [hc] at h3
        simp only [source, ne_eq, List.cons_append, reduceCtorEq, not_false_eq_true, and_true,
          List.append_assoc, List.nil_append, List.cons.injEq, true_and]
        rw [h3, h2, h1]
      · simp at h
    · simp at h
  · simp at h

theorem source_of_readFormat (isClock : Bool) (word t : Text) :
    (date isClock word (readFormat t).1).source ++ (readFormat t).2 = word ++ t := by
  unfold readFormat
  split
  · split
    · next hf =>
      split
      · next hz =>
        have h1 := append_of_readEscaped? hf
        have h2 := append_of_readZone? hz
        simp only [List.cons_append] at h2
        simp [source, h1, h2]
      · simp [source, append_of_readEscaped? hf]
    · simp [source]
  · simp [source]

theorem source_of_readDate? {t rest : Text} {d : Directive}
    (h : readDate? t = some (d, rest)) : d.source ++ rest = t ∧ d.source ≠ [] := by
  unfold readDate? at h
  simp only [Option.map_eq_some_iff] at h
  obtain ⟨⟨isClock, w, rest'⟩, hw, heq⟩ := h
  simp only [Prod.mk.injEq] at heq
  obtain ⟨rfl, rfl⟩ := heq
  have hword : w ++ rest' = t ∧ w ≠ [] := by
    split at hw
    · next hr =>
      simp only [Option.some.injEq, Prod.mk.injEq] at hw
      obtain ⟨_, rfl⟩ := hw
      exact append_of_readAnyWord? (by decide) hr
    · simp only [Option.map_eq_some_iff] at hw
      obtain ⟨r, hr, hx⟩ := hw
      simp only [Prod.mk.injEq] at hx
      obtain ⟨_, rfl⟩ := hx
      exact append_of_readAnyWord? (by decide) hr
  refine ⟨(source_of_readFormat isClock w rest').trans hword.1, fun hs => hword.2 ?_⟩
  unfold source at hs
  split at hs <;> simp_all

theorem source_append_of_read? {t rest : Text} {d : Directive} (h : read? t = some (d, rest)) :
    d.source ++ rest = t ∧ d.source ≠ [] := by
  obtain ⟨r, hr, h⟩ := List.exists_of_findSome?_eq_some h
  have word : ∀ (ws : List String) (make : Text → Directive), (∀ w, (make w).source = w) →
      (∀ x ∈ ws, x.toText ≠ []) →
      ((readAnyWord? ws t).map fun r => (make r.1, r.2)) = some (d, rest) →
      d.source ++ rest = t ∧ d.source ≠ [] := by
    intro ws make hm hne h
    simp only [Option.map_eq_some_iff, Prod.mk.injEq] at h
    obtain ⟨⟨w, rest'⟩, hw, rfl, rfl⟩ := h
    rw [hm]
    exact append_of_readAnyWord? hne hw
  simp only [readers, List.mem_cons, List.not_mem_nil, or_false] at hr
  rcases hr with rfl | rfl | rfl | rfl | rfl | rfl | rfl | rfl
  · simp only [readPosition?, Option.map_eq_some_iff, Prod.mk.injEq] at h
    obtain ⟨⟨w, rest'⟩, hw, rfl, rfl⟩ := h
    exact append_of_readRun? hw
  · exact word _ trim (fun _ => rfl) (by decide) h
  · exact word _ lower (fun _ => rfl) (by decide) h
  · exact word _ upper (fun _ => rfl) (by decide) h
  · exact word _ codec (fun _ => rfl) (by decide) h
  · exact source_of_readBrackets? h
  · exact source_of_readPrintf? h
  · exact source_of_readDate? h

theorem length_lt_of_read? {t rest : Text} {d : Directive} (h : read? t = some (d, rest)) :
    rest.length < t.length := by
  obtain ⟨h1, h2⟩ := source_append_of_read? h
  have := List.length_pos_iff.2 h2
  rw [← h1, List.length_append]
  omega

end Directive

end BraceTemplate
