import BraceTemplate.Proofs.Faults

/-!
# BraceTemplate.Proofs.FormatFaults

The failures of numeric formatting (`Printf.among_format`), of dates (`Calendar.among_formatDate`)
and of patterns to extract (`Pattern.eq_incompatibleFlags_of_readWith`). A specifier is reported as
unsupported only where it cannot be parsed (`Printf.unsupported_of_format`).
-/

namespace BraceTemplate

/-! ## Numeric formatting -/

namespace Printf

/-- The expansion errors of printf. -/
def IsConversion (e : ExpansionError) : Prop := ∃ cause, e = .conversion cause

/-- The expansion errors of printf behind a specifier that can be parsed. -/
def IsRefusal (e : ExpansionError) : Prop :=
  ∃ cause, e = .conversion cause ∧ ∀ spec, cause ≠ .unsupportedSpecifier spec

theorem among_pad (left : Bool) (width t : Text) :
    Failure.Among IsRefusal (pad left width t) := by
  unfold pad
  split
  · exact .ok _
  · split
    · rename_i h
      exact .passed (Number.among_readDigits _) h (by decide)
    · split
      · exact .fault (by decide)
      · exact .ok _

theorem among_characterText (spec : Text) (v : Value) :
    Failure.Among IsRefusal (characterText spec v) := by
  unfold characterText
  split
  · exact .ok _
  · split
    · exact .ok _
    · split
      · rename_i h
        exact .passed (Number.among_decimalText _) h (by decide)
      · exact .expansion ⟨_, rfl, by simp⟩
  · exact .expansion ⟨_, rfl, by simp⟩

theorem among_hashText (t : Text) : Fault.Among [.loneSurrogate] (hashText t) := by
  unfold hashText Codec.Utf16.encode
  split
  · exact .ok _
  · exact .fault (List.mem_singleton_self _)

theorem among_hashValue (v : Value) :
    Fault.Among [.tooManyDigits, .loneSurrogate] (hashValue v) := by
  unfold hashValue
  split
  · exact .ok _
  · exact .ok _
  · exact .ok _
  · split
    · rename_i h
      exact .error (Fault.Among.mono (Value.among_toText _) (by simp)) h
    · exact Fault.Among.mono (among_hashText _) (by simp)

theorem among_generalValue (spec : Text) (c : Conversion) (v : Value) :
    Failure.Among IsRefusal (generalValue spec c v) := by
  unfold generalValue
  split
  · unfold ofFault
    split
    · exact .ok _
    · rename_i h
      exact .passed (Value.among_toText v) h (by decide)
  · split
    · exact .ok _
    · exact .ok _
    · exact .ok _
  · split
    · exact .ok _
    · split
      · rename_i h
        exact .passed (among_hashValue _) h (by decide)
      · exact .ok _
  · exact among_characterText spec v

theorem among_formatGeneral (raw : Text) (s : Specifier) (v : Value) :
    Failure.Among IsRefusal (formatGeneral raw s v) := by
  have hfinish : ∀ t, Failure.Among IsRefusal (formatGeneral.finish s t) :=
    fun t => among_pad _ _ _
  have hbody : Failure.Among IsRefusal (formatGeneral.body raw s v) := by
    unfold formatGeneral.body
    split
    · rename_i h
      exact .error (among_generalValue raw s.conversion v) h
    · split
      · exact hfinish _
      · split
        · exact .expansion ⟨_, rfl, by simp⟩
        · split
          · rename_i h
            exact .passed (Number.among_readDigits _) h (by decide)
          · exact hfinish _
  unfold formatGeneral
  split
  · split
    · exact hbody
    · exact .expansion ⟨_, rfl, by simp⟩
  · exact hbody

theorem among_readAsciiNumber (limit : Nat) (digits : Text) :
    Failure.Among IsRefusal (readAsciiNumber limit digits) := by
  unfold readAsciiNumber
  split
  · exact .fault (by decide)
  · simp only
    split
    · exact .fault (by decide)
    · exact .ok _

theorem among_integerDigits (s : Specifier) (i : Int) :
    Failure.Among IsRefusal (integerDigits s i) := by
  unfold integerDigits
  split
  · exact .ok _
  · exact .ok _
  · split
    · exact .ok _
    · rename_i h
      exact .passed (Number.among_decimalText _) h (by decide)

theorem among_formatInteger (s : Specifier) (i : Int) :
    Failure.Among IsRefusal (formatInteger s i) := by
  unfold formatInteger
  simp only
  split
  · rename_i h
    exact .error (among_integerDigits s _) h
  · split
    · exact among_pad _ _ _
    · split
      · exact among_pad _ _ _
      · exact .fault (by decide)
    · split
      · exact among_pad _ _ _
      · split
        · rename_i h
          exact .error (among_readAsciiNumber _ _) h
        · exact .ok _

theorem among_plainPrecision (s : Specifier) :
    Failure.Among IsRefusal (formatFloat.plainPrecision s) := by
  unfold formatFloat.plainPrecision
  split
  · exact .ok _
  · simp only
    split
    · exact .fault (by decide)
    · exact .ok _

theorem among_formatFloat (s : Specifier) (x : Number.Binary64) :
    Failure.Among IsRefusal (formatFloat s x) := by
  unfold formatFloat
  simp only
  split
  · split
    · rename_i h
      exact .error (among_plainPrecision s) h
    · exact among_pad _ _ _
  · split
    · rename_i h
      exact .error (among_plainPrecision s) h
    · exact among_pad _ _ _
  · split
    · rename_i h
      exact .error (among_readAsciiNumber _ _) h
    · split
      · exact .ok _
      · split
        · rename_i h
          exact .error (among_readAsciiNumber _ _) h
        · exact .ok _

theorem among_formatWith (raw : Text) (s : Specifier) (v : Value) :
    Failure.Among IsRefusal (formatWith raw s v) := by
  have hinteger : Failure.Among IsRefusal (formatWith.integer raw s v) := by
    unfold formatWith.integer
    split
    · split
      · exact .expansion ⟨_, rfl, by simp⟩
      · exact among_formatInteger s _
    · exact .expansion ⟨_, rfl, by simp⟩
  have hfloat : Failure.Among IsRefusal (formatWith.float raw s v) := by
    unfold formatWith.float
    split
    · split
      · exact .expansion ⟨_, rfl, by simp⟩
      · split
        · exact among_pad _ _ _
        · exact among_formatFloat s _
    · exact .expansion ⟨_, rfl, by simp⟩
  unfold formatWith
  split
  · exact hinteger
  · exact hinteger
  · exact hinteger
  · exact hfloat
  · exact hfloat
  · exact hfloat
  · exact hfloat
  · exact among_formatGeneral raw s v

theorem among_format (spec : Text) (v : Value) :
    Failure.Among IsConversion (format spec v) := by
  unfold format
  split
  · exact .expansion ⟨_, rfl⟩
  · refine (among_formatWith spec _ v).mono ?_
    rintro e ⟨cause, rfl, -⟩
    exact ⟨cause, rfl⟩

theorem unsupported_of_format {spec written : Text} {v : Value}
    (h : format spec v = .error (.expansion (.conversion (.unsupportedSpecifier written)))) :
    written = spec ∧ Specifier.parse? spec = none := by
  unfold format at h
  split at h
  · rename_i hparse
    cases h
    exact ⟨rfl, hparse⟩
  · obtain ⟨cause, hcause, hne⟩ := among_formatWith spec _ v _ h
    cases hcause
    exact absurd rfl (hne written)

end Printf

/-! ## Dates -/

namespace Calendar

namespace DatePattern

theorem among_fractionDigits (micro count : Nat) :
    Fault.Among [.fractionTooLong] (fractionDigits micro count) := by
  unfold fractionDigits
  split
  · exact .fault (List.mem_singleton_self _)
  · exact .ok _

theorem among_fieldText (l : Locale) (t : ZonedTime) (letter : CodePoint) (count : Nat) :
    Fault.Among [.fractionTooLong] (fieldText l t letter count) := by
  unfold fieldText
  split
  · split
    · exact .ok _
    · rename_i h
      exact .error (among_fractionDigits _ _) h
  all_goals exact .ok _

/-- By induction on the fields of the pattern. -/
theorem among_apply (l : Locale) (t : ZonedTime) (pieces : DatePattern) :
    Fault.Among [.fractionTooLong] (pieces.apply l t) := by
  induction pieces with
  | nil => exact .ok _
  | cons piece pieces ih =>
    cases piece with
    | literal text =>
      rw [apply]
      split
      · exact .ok _
      · exact ih
    | field letter count =>
      rw [apply]
      split
      · rename_i h
        exact .error (among_fieldText l t letter count) h
      · exact .ok _
      · split
        · exact .ok _
        · exact ih

end DatePattern

theorem among_ofMoment (m : Moment) (zone : Zone) :
    Fault.Among [.instantOutOfRange] (ZonedTime.ofMoment m zone) := by
  unfold ZonedTime.ofMoment
  simp only
  split
  · exact .ok _
  · exact .fault (List.mem_singleton_self _)

/-- The expansion errors of a pattern. -/
def IsPatternError (pattern : Text) (e : ExpansionError) : Prop :=
  e = .invalidDatePattern pattern ∨ ∃ letter, e = .unknownDateLetter letter pattern

theorem isPatternError_of_formatDate [Packages] {m : Moment} {pattern locale : Text} {zone : Zone}
    {e : ExpansionError} (h : formatDate m pattern zone locale = .error (.expansion e)) :
    IsPatternError pattern e := by
  unfold formatDate at h
  split at h
  · cases h
    exact .inr ⟨_, rfl⟩
  · split at h
    · cases h
    · cases h
      exact .inl rfl
    · cases h

theorem among_writeDate (m : Moment) (pattern : Text) (zone : Zone) (locale : Text) :
    Fault.Among [.instantOutOfRange, .unknownLocale, .fractionTooLong]
      (writeDate m pattern zone locale) := by
  unfold writeDate
  -- any resolution of locales will do; the table behind this one must not be unfolded
  obtain ⟨resolve, hresolve⟩ : ∃ resolve, resolve = Locale.resolve? := ⟨_, rfl⟩
  rw [← hresolve]
  simp only
  split
  · exact .ok _
  · split
    · rename_i h
      exact .fault (by simp [List.mem_singleton.1 (among_ofMoment m zone _ h)])
    · split
      · exact .ok _
      · split
        · exact .fault (by decide)
        · intro g h
          simp [List.mem_singleton.1 (DatePattern.among_apply _ _ _ g h)]

theorem among_formatDate (m : Moment) (pattern : Text) (zone : Zone) (locale : Text) :
    Failure.Among (IsPatternError pattern) (formatDate m pattern zone locale) := by
  intro e h
  cases e with
  | expansion e => exact isPatternError_of_formatDate h
  | fault f =>
    unfold formatDate at h
    split at h
    · cases h
    · split at h
      · rename_i hwrite
        cases h
        exact (by decide : ∀ g ∈ [.instantOutOfRange, .unknownLocale, .fractionTooLong],
          Fault.IsOrdinary g) f (among_writeDate m pattern zone locale f hwrite)
      · cases h
      · cases h

end Calendar

/-! ## Patterns -/

namespace Pattern

theorem checkReferences_ne_fault {count : Nat} {names : List (Text × Nat)}
    {references : List (GroupKey × Nat × Bool)} {f : Fault} :
    checkReferences count names references ≠ .error (.fault f) := by
  induction references with
  | nil => nofun
  | cons reference references ih =>
    obtain ⟨key, position, allowZero⟩ := reference
    intro h
    unfold checkReferences at h
    simp only at h
    split at h
    · rename_i e hknown
      cases h
      cases key with
      | number n =>
        simp only at hknown
        split at hknown
        · cases hknown
        · cases hknown
      | name t =>
        simp only at hknown
        split at hknown
        · cases hknown
        · cases hknown
    · exact ih h

/-- The only fault of a pattern is that of its flags; by induction on the readings. -/
theorem eq_incompatibleFlags_of_readWith {pattern : Text} {tries : Nat} {flags : Flags} {f : Fault}
    (h : readWith pattern tries flags = .error (.fault f)) : f = .incompatibleFlags := by
  induction tries generalizing flags with
  | zero => cases h
  | succ tries ih =>
    unfold readWith at h
    extract_lets start at h
    split at h
    · exact ih h
    · cases h
    · extract_lets trailing at h
      split at h
      · cases h
      · split at h
        · cases h
          rfl
        · split at h
          · rename_i hcheck
            cases h
            exact absurd hcheck checkReferences_ne_fault
          · cases h

end Pattern

end BraceTemplate
