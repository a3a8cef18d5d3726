import BraceTemplate.Proofs.Application
import BraceTemplate.Proofs.Lexing
import BraceTemplate.Proofs.OperandChecks

/-!
# BraceTemplate.Proofs.ScanFaults

What keeps a template from being scanned. Braces around something that is no body are literal text
and fail nothing. A body of the right form can still fail to be compiled, in two ways
(`Directive.compile_eq_error_iff`): a position or an indirect operand has more digits than are
read, or a codec keyword is written with a long s, which the forms accept as an s and the list of
codecs does not. The scan ends in a fault exactly where it reaches a brace before such a directive
(`scan_ends`); a template with few digits and without a long s has none (`Scan.fault_eq_none`).
-/

namespace BraceTemplate

/-- The letter that counts as an s in keywords and is its own lower case. -/
def Text.longS : CodePoint := CodePoint.ofNat 0x17f

namespace Reference

/-- Braces around more digits than are read. -/
def IsOverlong (t : Text) : Prop :=
  ∃ digits, indirectDigits? t = some digits ∧ Number.maxDigits < digits.length

theorem parse_eq_error_iff {t : Text} {f : Fault} :
    parse t = .error f ↔ f = .tooManyDigits ∧ IsOverlong t := by
  unfold parse IsOverlong
  split
  · rename_i h
    simp [h]
  · rename_i digits h
    by_cases hlong : digits.length > Number.maxDigits
    · simp [h, Number.readDigits, hlong, eq_comm]
    · simp [h, Number.readDigits, hlong]

theorem sublist_of_indirectDigits? {t digits : Text} (h : indirectDigits? t = some digits) :
    digits.Sublist t ∧ ∀ c ∈ digits, Text.isDecimal c = true := by
  unfold indirectDigits? at h
  split at h
  · rename_i t'
    have hdigits : digits = t'.takeWhile Text.isDecimal := by
      simp only at h
      split at h
      · exact (Option.some.inj h).symm
      · exact (Option.some.inj h).symm
      · cases h
    rw [hdigits]
    exact ⟨(List.takeWhile_sublist _).cons _, fun c hc => List.mem_takeWhile_imp hc⟩
  · cases h

theorem IsOverlong.lt_countP {t : Text} (h : IsOverlong t) :
    Number.maxDigits < t.countP Text.isDecimal := by
  obtain ⟨digits, hdigits, hlong⟩ := h
  obtain ⟨hsub, hall⟩ := sublist_of_indirectDigits? hdigits
  rw [← List.countP_eq_length.2 hall] at hlong
  exact Nat.lt_of_lt_of_le hlong hsub.countP_le

end Reference

namespace Directive

/-- The texts of a directive that are read as operands. -/
def operandTexts : Directive → List Text
  | substring start none => [start]
  | substring start (some (_, bound)) => [start, bound]
  | extract pattern group => [pattern, group]
  | date _ _ (some (format, zone)) => unescape format :: zone.toList
  | _ => []

/-- What keeps a directive from being compiled. -/
inductive Obstructed : Directive → Fault → Prop where
  | position {digits : Text} (h : Number.maxDigits < digits.length) :
      Obstructed (position digits) .tooManyDigits
  | operand {d : Directive} {t : Text} (ht : t ∈ d.operandTexts) (h : Reference.IsOverlong t) :
      Obstructed d .tooManyDigits
  | codec {word : Text} (h : Text.longS ∈ word) : Obstructed (codec word) .unknownCodec

/-! ## Codec keywords -/

def codecWords : List String :=
  ["urlencode", "urldecode", "b64encode", "b64decode", "base64encode", "base64decode"]

theorem map_toLower_of_spells {word w : Text} (h : Spells word w) (hs : Text.longS ∉ w)
    (hi : .char 'i' ∉ word) (hk : .char 'k' ∉ word) : w.map CodePoint.toLower = word := by
  induction h with
  | nil => rfl
  | @cons letter c word w hc _ ih =>
    rw [List.mem_cons, not_or] at hs hi hk
    have hlower : c.toLower = letter := by
      simp only [Text.isLetterAnyCase, Bool.or_eq_true, Bool.and_eq_true, decide_eq_true_eq] at hc
      rcases hc with ((hc | hc) | hc) | hc
      · exact hc
      · exact absurd hc.1.symm hi.1
      · exact absurd hc.2.symm hs.1
      · exact absurd hc.1.symm hk.1
    rw [List.map_cons, hlower, ih hs.2 hi.2 hk.2]

theorem codecOperator?_eq_none_iff {w : Text} (hw : SpellsAny codecWords w) :
    codecOperator? w = none ↔ Text.longS ∈ w := by
  constructor
  · intro h
    by_contra hs
    obtain ⟨x, hx, hspells⟩ := hw
    have hfree : ∀ x ∈ codecWords, .char 'i' ∉ x.toText ∧ .char 'k' ∉ x.toText := by decide
    obtain ⟨hi, hk⟩ := hfree x hx
    rw [codecOperator?, map_toLower_of_spells hspells hs hi hk, Text.string_toText] at h
    simp only [codecWords, List.mem_cons, List.not_mem_nil, or_false] at hx
    rcases hx with rfl | rfl | rfl | rfl | rfl | rfl
    all_goals cases h
  · intro h
    have hmem : Text.longS.toChar ∈ (Text.string (w.map CodePoint.toLower)).toList := by
      rw [Text.string, String.toList_ofList, List.map_map]
      exact List.mem_map.2 ⟨Text.longS, h, by decide⟩
    have hnone : ∀ x ∈ codecWords, Text.string (w.map CodePoint.toLower) ≠ x := by
      rintro x hx rfl
      have hfree : ∀ x ∈ codecWords, Text.longS.toChar ∉ x.toList := by decide
      exact hfree _ hx hmem
    simp only [codecWords, List.mem_cons, List.not_mem_nil, or_false, forall_eq_or_imp,
      forall_eq] at hnone
    simp [codecOperator?, hnone]

/-! ## Directives -/

theorem exists_parse_eq_error_iff {ts : List Text} {f : Fault} :
    (∃ t ∈ ts, Reference.parse t = .error f) ↔
      f = .tooManyDigits ∧ ∃ t ∈ ts, Reference.IsOverlong t := by
  simp only [Reference.parse_eq_error_iff]
  constructor
  · rintro ⟨t, ht, rfl, h⟩
    exact ⟨rfl, t, ht, h⟩
  · rintro ⟨rfl, t, ht, h⟩
    exact ⟨t, ht, rfl, h⟩

theorem ofOperands_eq_error_iff {operator : Reference → Reference → Operator} {first second : Text}
    {f : Fault} :
    ofOperands operator first second = .error f ↔
      ∃ t ∈ [first, second], Reference.parse t = .error f := by
  simp only [ofOperands, List.mem_cons, List.not_mem_nil, or_false, exists_eq_or_imp,
    exists_eq_left]
  cases hfirst : Reference.parse first with
  | error g =>
    have hg := (Reference.parse_eq_error_iff.1 hfirst).1
    simp only [Except.error.injEq]
    constructor
    · exact .inl
    · rintro (h | h)
      · exact h
      · rw [hg, (Reference.parse_eq_error_iff.1 h).1]
  | ok a =>
    cases Reference.parse second with
    | error g => simp
    | ok b => simp [ofOperator]

theorem dateOperator_eq_error_iff {isClock : Bool} {word : Text}
    {detail : Option (Text × Option Text)} {f : Fault} :
    dateOperator (detail.map (·.1)) (detail.bind (·.2)) = .error f ↔
      ∃ t ∈ (date isClock word detail).operandTexts, Reference.parse t = .error f := by
  have hdefault : Reference.parse (unescape defaultFormat) =
      .ok (.literal (some (unescape defaultFormat))) := by decide
  rcases detail with _ | ⟨_ | ⟨c, format⟩, zone⟩
  · simp [dateOperator, hdefault, operandTexts]
  · -- an empty format is the default one, and neither is an indirect operand
    have hempty : Reference.parse (unescape []) = .ok (.literal (some [])) := rfl
    cases zone with
    | none => simp [dateOperator, hdefault, operandTexts, hempty]
    | some z =>
      simp only [dateOperator, hdefault, operandTexts, Option.map_some, Option.bind_some]
      cases hzone : Reference.parse z with
      | error g => simp [hempty, hzone]
      | ok b => simp [hempty, hzone]
  · cases zone with
    | none =>
      simp only [dateOperator, operandTexts, Option.map_some, Option.bind_some]
      cases hformat : Reference.parse (unescape (c :: format)) with
      | error g => simp [hformat]
      | ok b => simp [hformat]
    | some z =>
      have hpair := @ofOperands_eq_error_iff .date (unescape (c :: format)) z f
      rw [operandTexts, Option.toList_some, ← hpair]
      simp only [dateOperator, ofOperands, Option.map_some, Option.bind_some]
      cases Reference.parse (unescape (c :: format)) with
      | error g => simp
      | ok a =>
        cases Reference.parse z with
        | error g => simp
        | ok b => simp [ofOperator]

theorem obstructed_iff_of_operands {d : Directive} {f : Fault}
    (hposition : ∀ digits, d ≠ .position digits) (hcodec : ∀ word, d ≠ .codec word) :
    d.Obstructed f ↔ ∃ t ∈ d.operandTexts, Reference.parse t = .error f := by
  rw [exists_parse_eq_error_iff]
  constructor
  · intro h
    cases h with
    | position h => exact absurd rfl (hposition _)
    | operand ht h => exact ⟨rfl, _, ht, h⟩
    | codec h => exact absurd rfl (hcodec _)
  · rintro ⟨rfl, t, ht, h⟩
    exact .operand ht h

theorem compile_eq_error_iff {d : Directive} (hd : d.Written) {f : Fault} :
    d.compile = .error f ↔ d.Obstructed f := by
  cases d with
  | position digits =>
    simp only [compile, Number.readDigits]
    by_cases hlong : digits.length > Number.maxDigits
    · rw [if_pos hlong]
      constructor
      · intro h
        cases h
        exact .position hlong
      · intro h
        cases h with
        | position _ => rfl
        | operand _ _ => rfl
    · rw [if_neg hlong]
      constructor
      · intro h
        cases h
      · intro h
        cases h with
        | position h => exact absurd h hlong
        | operand ht _ => cases ht
  | codec word =>
    have hword : SpellsAny codecWords word := by
      cases hd with
      | codec h => exact h
    have hnone := codecOperator?_eq_none_iff hword
    simp only [compile]
    cases hoperator : codecOperator? word with
    | some o =>
      constructor
      · intro h
        cases h
      · intro h
        cases h with
        | operand ht _ => cases ht
        | codec h => rw [hnone.2 h] at hoperator; cases hoperator
    | none =>
      constructor
      · intro h
        cases h
        exact .codec (hnone.1 hoperator)
      · intro h
        cases h with
        | operand ht _ => cases ht
        | codec _ => rfl
  | trim w => simp [obstructed_iff_of_operands, compile, ofOperator, operandTexts]
  | lower w => simp [obstructed_iff_of_operands, compile, ofOperator, operandTexts]
  | upper w => simp [obstructed_iff_of_operands, compile, ofOperator, operandTexts]
  | printf specifier => simp [obstructed_iff_of_operands, compile, ofOperator, operandTexts]
  | extract pattern group =>
    rw [obstructed_iff_of_operands (by simp) (by simp)]
    exact ofOperands_eq_error_iff
  | substring start bound =>
    rw [obstructed_iff_of_operands (by simp) (by simp)]
    rcases bound with _ | ⟨mark, bound⟩
    · simp only [compile, operandTexts, List.mem_singleton, exists_eq_left]
      cases Reference.parse start with
      | error g => simp
      | ok a => simp [ofOperator]
    · exact ofOperands_eq_error_iff
  | date isClock word detail =>
    rw [obstructed_iff_of_operands (by simp) (by simp), ← dateOperator_eq_error_iff]
    simp only [compile]
    cases dateOperator (detail.map (·.1)) (detail.bind (·.2)) with
    | error g => simp
    | ok o => simp

/-- The first directive that is obstructed. -/
inductive FirstObstructed : List Directive → Fault → Prop where
  | first {d : Directive} {ds : List Directive} {f : Fault} :
      d.Obstructed f → FirstObstructed (d :: ds) f
  | later {d : Directive} {ds : List Directive} {f : Fault} :
      (∀ g, ¬ d.Obstructed g) → FirstObstructed ds f → FirstObstructed (d :: ds) f

theorem FirstObstructed.exists_mem {ds : List Directive} {f : Fault} (h : FirstObstructed ds f) :
    ∃ d ∈ ds, d.Obstructed f := by
  induction h with
  | first h => exact ⟨_, List.mem_cons_self, h⟩
  | later _ _ ih =>
    obtain ⟨d, hd, h⟩ := ih
    exact ⟨d, List.mem_cons_of_mem _ hd, h⟩

theorem compileAll_eq_error_iff {ds : List Directive} (hds : ∀ d ∈ ds, d.Written) {f : Fault} :
    compileAll ds = .error f ↔ FirstObstructed ds f := by
  induction ds with
  | nil =>
    constructor
    · intro h
      cases h
    · intro h
      cases h
  | cons d ds ih =>
    have hfirst := fun {g : Fault} => compile_eq_error_iff (hds d List.mem_cons_self) (f := g)
    have hrest := ih fun d' hd' => hds d' (List.mem_cons_of_mem d hd')
    rw [compileAll]
    cases hcompile : d.compile with
    | error g =>
      constructor
      · intro h
        cases h
        exact .first (hfirst.1 hcompile)
      · intro h
        cases h with
        | first h =>
          rw [hfirst.2 h] at hcompile
          cases hcompile
          rfl
        | later hnone _ => exact absurd (hfirst.1 hcompile) (hnone g)
    | ok step =>
      have hnone : ∀ g, ¬ d.Obstructed g := by
        intro g h
        rw [hfirst.2 h] at hcompile
        cases hcompile
      constructor
      · intro h
        refine .later hnone (hrest.1 ?_)
        simp only at h
        split at h
        · rename_i hfail
          cases h
          exact hfail
        · cases h
      · intro h
        cases h with
        | first h => exact absurd h (hnone f)
        | later _ h => rw [hrest.2 h]

/-! ## What an obstruction takes -/

theorem unescape_cons {c : CodePoint} (hc : c ≠ '\\') (t : Text) :
    unescape (c :: t) = c :: unescape t := by
  cases t with
  | nil => rfl
  | cons d t => rw [unescape, if_neg fun h => hc h.1]

theorem unescape_sublist (t : Text) : (unescape t).Sublist t := by
  fun_induction unescape t with
  | case1 => exact .slnil
  | case2 c => exact List.Sublist.refl _
  | case3 c d t hc ih => exact (ih.cons_cons d).cons c
  | case4 c d t hc ih => exact ih.cons_cons c

theorem sublist_source_of_mem_operandTexts {d : Directive} {t : Text} (h : t ∈ d.operandTexts) :
    t.Sublist d.source := by
  have hinfix : ∀ {t : Text} (front back : Text), front ++ t ++ back = d.source →
      t.Sublist d.source := fun front back h => List.IsInfix.sublist ⟨front, back, h⟩
  unfold operandTexts at h
  split at h
  · rename_i start
    rw [List.mem_singleton.1 h]
    exact hinfix ['['] [']'] (by simp [source])
  · rename_i start mark bound
    simp only [List.mem_cons, List.not_mem_nil, or_false] at h
    rcases h with rfl | rfl
    · exact hinfix [.char '['] (mark :: bound ++ [.char ']']) (by simp [source])
    · exact hinfix (.char '[' :: start ++ [mark]) [.char ']'] (by simp [source])
  · rename_i pattern group
    simp only [List.mem_cons, List.not_mem_nil, or_false] at h
    rcases h with rfl | rfl
    · exact hinfix [.char '[', .char '/'] (.char '/' :: group ++ [.char ']']) (by simp [source])
    · exact hinfix (.char '[' :: .char '/' :: pattern ++ [.char '/']) [.char ']'] (by simp [source])
  · rename_i isClock word format zone
    rcases List.mem_cons.1 h with rfl | h
    · refine (unescape_sublist format).trans ?_
      cases zone with
      | none => exact hinfix (word ++ [.char '(']) [.char ')'] (by simp [source])
      | some zone =>
        exact hinfix (word ++ [.char '(']) (.char ')' :: .char '[' :: zone ++ [.char ']'])
          (by simp [source])
    · cases zone with
      | none => cases h
      | some zone =>
        rw [Option.toList_some, List.mem_singleton] at h
        subst h
        exact hinfix (word ++ .char '(' :: format ++ [.char ')', .char '[']) [.char ']']
          (by simp [source])
  · cases h

/-- An obstructed directive has more digits than are read, or a long s. -/
theorem Obstructed.digits_or_longS {d : Directive} {f : Fault} (hd : d.Written)
    (h : d.Obstructed f) :
    Number.maxDigits < d.source.countP Text.isDecimal ∨ Text.longS ∈ d.source := by
  cases h with
  | @position digits h =>
    cases hd with
    | position hrun =>
      left
      rwa [source, List.countP_eq_length.2 hrun.2]
  | operand ht h =>
    left
    exact Nat.lt_of_lt_of_le h.lt_countP (sublist_source_of_mem_operandTexts ht).countP_le
  | codec h => exact .inr h

end Directive

namespace Body

theorem source_sublist_of_mem {ds : List (Directive × Bool)} {x : Directive × Bool} (h : x ∈ ds) :
    x.1.source.Sublist (source ds) := by
  induction ds with
  | nil => cases h
  | cons y ds ih =>
    rw [source_cons]
    rcases List.mem_cons.1 h with rfl | h
    · exact List.sublist_append_left _ _
    · exact (ih h).trans ((List.sublist_append_right _ _).trans (List.sublist_append_right _ _))

theorem parse_eq_error_iff {t : Text} {f : Fault} :
    parse t = .error f ↔ Directive.FirstObstructed ((readDirectives t).1.map (·.1)) f := by
  have hwritten : ∀ d ∈ (readDirectives t).1.map (·.1), d.Written := by
    intro d hd
    obtain ⟨x, hx, rfl⟩ := List.mem_map.1 hd
    exact (decomposes_readDirectives t).written x hx
  rw [← Directive.compileAll_eq_error_iff hwritten]
  unfold parse
  cases Directive.compileAll ((readDirectives t).1.map (·.1)) with
  | error g => simp only [Except.error.injEq]
  | ok steps =>
    constructor
    · intro h
      simp only at h
      split at h
      · cases h
      · cases h
    · intro h
      cases h

end Body

/-! ## The scan -/

open Token (sources)

namespace Scan

/-- The scan of a text reaches a brace: the text behind the brace is `rest`, and what stands before
it has been read with what stands behind it. -/
inductive Reaches : Text → Text → Prop where
  | here {rest : Text} : Reaches ('\x7b' :: rest) rest
  | literal {c : CodePoint} {t rest : Text} :
      (c = '\x7b' → IsStray t) → Reaches t rest → Reaches (c :: t) rest
  | blockOpen {t rest : Text} : Reaches t rest → Reaches ('\x7b' :: '?' :: '\x7d' :: t) rest
  | blockClose {t rest : Text} : Reaches t rest → Reaches ('\x7b' :: '.' :: '\x7d' :: t) rest
  | replacement {t t' rest : Text} {body : Body} :
      Body.parse t = .ok (some (body, t')) → Reaches t' rest → Reaches ('\x7b' :: t) rest

theorem Reaches.sublist {t rest : Text} (h : Reaches t rest) : rest.Sublist t := by
  induction h with
  | here => exact List.sublist_cons_self _ _
  | literal _ _ ih => exact ih.cons _
  | blockOpen _ ih => exact ((ih.cons _).cons _).cons _
  | blockClose _ ih => exact ((ih.cons _).cons _).cons _
  | replacement hp _ ih =>
    rw [← Body.raw_append_of_parse hp]
    exact ((ih.cons _).trans (List.sublist_append_right _ _)).cons _

theorem scanFrom_of_parse_eq_error {rest : Text} {f : Fault} (h : Body.parse rest = .error f)
    (acc : Text) : scanFrom acc ('\x7b' :: rest) = ⟨[], some f⟩ := by
  rw [scanFrom]
  · rw [if_pos rfl]
    split
    · rename_i hp
      rw [h] at hp
      cases hp
      rfl
    · rename_i hp
      rw [h] at hp
      cases hp
    · rename_i hp
      rw [h] at hp
      cases hp
  · rintro r - rfl
    rw [Body.parse_eq_none (.inl rfl)] at h
    cases h
  · rintro r - rfl
    rw [Body.parse_eq_none (.inr rfl)] at h
    cases h

/-- By induction on the way to the brace. -/
theorem Reaches.fault_eq {t rest : Text} {f : Fault} (h : Reaches t rest)
    (hparse : Body.parse rest = .error f) (acc : Text) : (scanFrom acc t).fault = some f := by
  induction h generalizing acc with
  | here => rw [scanFrom_of_parse_eq_error hparse]
  | @literal c t rest hc _ ih =>
    by_cases hbrace : c = '\x7b'
    · subst hbrace
      rw [scanFrom_of_isStray (hc rfl)]
      exact ih hparse _
    · rw [scanFrom_of_ne hbrace]
      exact ih hparse _
  | blockOpen _ ih =>
    rw [scanFrom_open, fault_flush]
    exact ih hparse _
  | blockClose _ ih =>
    rw [scanFrom_close, fault_flush]
    exact ih hparse _
  | replacement hp _ ih =>
    rw [scanFrom_of_parse hp, fault_flush]
    exact ih hparse _

/-- By induction on the scanner. -/
theorem exists_reaches_of_fault {acc t : Text} {f : Fault} (h : (scanFrom acc t).fault = some f) :
    ∃ rest, Reaches t rest ∧ Body.parse rest = .error f := by
  fun_induction scanFrom acc t with
  | case1 acc =>
    rw [fault_flush] at h
    cases h
  | case2 acc rest ih =>
    rw [fault_flush] at h
    obtain ⟨r, hr, hparse⟩ := ih h
    exact ⟨r, .blockOpen hr, hparse⟩
  | case3 acc rest ih =>
    rw [fault_flush] at h
    obtain ⟨r, hr, hparse⟩ := ih h
    exact ⟨r, .blockClose hr, hparse⟩
  | case4 acc rest f' hp hopen hclose =>
    cases h
    exact ⟨rest, .here, hp⟩
  | case5 acc rest hp hopen hclose ih =>
    obtain ⟨r, hr, hparse⟩ := ih h
    have hstray := isStray_of_parse hp (fun r => hopen r rfl) (fun r => hclose r rfl)
    exact ⟨r, .literal (fun _ => hstray) hr, hparse⟩
  | case6 acc rest body rest' hp escape hopen hclose ih =>
    rw [fault_flush] at h
    obtain ⟨r, hr, hparse⟩ := ih h
    exact ⟨r, .replacement hp hr, hparse⟩
  | case7 acc c rest hopen hclose hc ih =>
    obtain ⟨r, hr, hparse⟩ := ih h
    exact ⟨r, .literal (fun hbrace => absurd hbrace hc) hr, hparse⟩

end Scan

theorem scan_fault_iff {template : Text} {f : Fault} :
    (scan template).fault = some f ↔ ∃ rest, Scan.Reaches template rest ∧
      Directive.FirstObstructed ((Body.readDirectives rest).1.map (·.1)) f := by
  simp only [← Body.parse_eq_error_iff]
  constructor
  · exact Scan.exists_reaches_of_fault
  · rintro ⟨rest, hr, hparse⟩
    exact hr.fault_eq hparse []

/-- A template without more digits than are read in one number and without a long s is scanned to
its end. -/
theorem Scan.fault_eq_none {template : Text}
    (hdigits : template.countP Text.isDecimal ≤ Number.maxDigits)
    (hs : Text.longS ∉ template) : (scan template).fault = none := by
  cases hf : (scan template).fault with
  | none => rfl
  | some f =>
    obtain ⟨rest, hreaches, hfirst⟩ := scan_fault_iff.1 hf
    obtain ⟨d, hd, hobstructed⟩ := hfirst.exists_mem
    obtain ⟨x, hx, rfl⟩ := List.mem_map.1 hd
    have hsub : x.1.source.Sublist template := by
      have hrest := Body.source_append_of_readDirectives rest
      refine (Body.source_sublist_of_mem hx).trans (List.Sublist.trans ?_ hreaches.sublist)
      conv => rhs; rw [← hrest]
      exact List.sublist_append_left _ _
    have hwritten := (Body.decomposes_readDirectives rest).written x hx
    rcases hobstructed.digits_or_longS hwritten with hlong | hmem
    · have hcount : x.1.source.countP Text.isDecimal ≤ template.countP Text.isDecimal :=
        hsub.countP_le
      omega
    · exact absurd (hsub.subset hmem) hs

theorem expand_ne_ok_of_fault [Packages] {template : Text} (h : (scan template).fault ≠ none)
    (settings : Settings) (clock : Calendar.Moment) (parameters : List Value) (text : Text) :
    expand settings clock template parameters ≠ .ok text := by
  intro hok
  unfold expand at hok
  simp only at hok
  split at hok
  · cases hok
  · split at hok
    · cases hok
    · rename_i hnone
      exact h hnone

/-- How a scan ends. Without a fault the tokens are the template, with every brace in their literal
text one that opens nothing; then a report is left out only where the check of an operand faults,
and an expansion fails only where a token that is evaluated does. There is a fault exactly where
the scan reaches a brace before an obstructed directive, which takes many digits or a long s, and
then there is neither a report nor an expansion. -/
theorem scan_ends [Packages] (template : Text) :
    ((scan template).fault = none →
      Lexed [] (scan template).tokens ∧ sources (scan template).tokens = template ∧
      ∀ settings,
        (∀ level now f, validate level settings now template = .error f →
          ∃ t ∈ (scan template).tokens, Report.causes now settings.locale t = .error f) ∧
        ∀ clock parameters e, expand settings clock template parameters = .error e →
          ∃ t ∈ (scan template).tokens, ∃ b, t.evaluated? = some b ∧
            ∃ n m, (b.evaluate (settings.context parameters) clock).run n = .error e m) ∧
    ((scan template).fault ≠ none → ∀ settings,
      (∀ level now report, validate level settings now template ≠ .ok report) ∧
      ∀ clock parameters text, expand settings clock template parameters ≠ .ok text) ∧
    (∀ f, (scan template).fault = some f ↔ ∃ rest, Scan.Reaches template rest ∧
      Directive.FirstObstructed ((Body.readDirectives rest).1.map (·.1)) f) ∧
    (template.countP Text.isDecimal ≤ Number.maxDigits → Text.longS ∉ template →
      (scan template).fault = none) := by
  refine ⟨fun hscan => ?_, fun hfault settings => ⟨?_, expand_ne_ok_of_fault hfault settings⟩,
    fun f => scan_fault_iff, Scan.fault_eq_none⟩
  · obtain ⟨hlexed, hsources⟩ := scan_eq_iff.1 (by rw [← hscan] : scan template = ⟨_, none⟩)
    refine ⟨hlexed, hsources, fun settings =>
      ⟨fun level now f => exists_causes_of_validate hscan, ?_⟩⟩
    intro clock parameters e h
    rw [expand_eq_outcome hscan, Evaluation.outcome_map_eq_error_iff] at h
    obtain ⟨m, hrun⟩ := h
    obtain ⟨t, ht, b, hb, n, he, -⟩ := Token.exists_evaluated_of_error hrun
    exact ⟨t, ht, b, hb, n, m, he⟩
  · intro level now report hreport
    exact hfault (fault_of_validate hreport)

/-- A keyword in which a long s stands for the s: no token is scanned, nothing is expanded and no
report is made. -/
theorem scan_long_s :
    let template :=
      .char '\x7b' :: "ba".toText ++ Text.longS :: "e64encode".toText ++ [.char '\x7d']
    scan template = ⟨[], some .unknownCodec⟩ ∧
      expand {} ⟨0, some 0⟩ template [] = .error (.fault .unknownCodec) ∧
      validate .standard {} ⟨0, some 0⟩ template = .error .unknownCodec := by decide +kernel

end BraceTemplate
