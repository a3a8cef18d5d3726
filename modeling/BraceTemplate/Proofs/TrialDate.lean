import BraceTemplate.Proofs.DayNumbers
import BraceTemplate.Packages

/-!
# BraceTemplate.Proofs.TrialDate

Date patterns that are turned down at the epoch are turned down at every time (`settles_standard`).
At the epoch it is the last day of 1969 or the first day of 1970, in every zone, and on these days
each field has a text but the one without any. So what fails there is in the pattern or in the
locale.
-/

namespace BraceTemplate.Calendar

/-! ## Names -/

namespace NameForms

/-- At least so many names in the three widths that every kind of name has. -/
def Covers (f : NameForms) (n : Nat) : Prop :=
  n ≤ f.wide.length ∧ n ≤ f.abbreviated.length ∧ n ≤ f.narrow.length

instance (f : NameForms) (n : Nat) : Decidable (f.Covers n) :=
  inferInstanceAs (Decidable (_ ∧ _ ∧ _))

end NameForms

namespace LocaleNames

/-- A name for each month, weekday, quarter, half of the day and part of the day. -/
def IsComplete (names : LocaleNames) : Prop :=
  names.era.Covers 1 ∧ (names.months.Covers 12 ∧ names.monthsAlone.Covers 12) ∧
    (names.weekdays.Covers 7 ∧ 7 ≤ names.weekdays.short.length) ∧
    (names.weekdaysAlone.Covers 7 ∧ 7 ≤ names.weekdaysAlone.short.length) ∧
    names.quarters.Covers 4 ∧ names.halves.Covers 2 ∧
    ∀ p ∈ names.dayParts, p.beside.Covers 1 ∧ p.alone.Covers 1

instance (names : LocaleNames) : Decidable names.IsComplete :=
  inferInstanceAs (Decidable (_ ∧ _))

end LocaleNames

theorem Locale.isComplete_names (l : Locale) : l.names.IsComplete := by
  have hall : ∀ names ∈ [LocaleNames.english, .worldEnglish, .german, .french, .spanish, .neutral],
      names.IsComplete := by decide
  refine hall l.names ?_
  unfold names
  split
  · split
    · simp
    · split
      · simp
      · simp
  · simp
  · simp
  · simp
  · simp

/-! ## The epoch -/

def Moment.epoch : Moment := ⟨epochClock, some 0⟩

theorem date_of_epoch {zone : Zone} {t : ZonedTime}
    (h : ZonedTime.ofMoment Moment.epoch zone = .ok t) :
    t.date = ⟨1969, 12, 31⟩ ∨ t.date = ⟨1970, 1, 1⟩ := by
  unfold ZonedTime.ofMoment at h
  simp only at h
  split at h
  · cases h
    generalize zone.kindAt _ = kind
    have hlt := kind.offset_lt
    have hclock : (Moment.epoch.universal + kind.offset * microsPerSecond) / microsPerDay =
          719161 ∨
        (Moment.epoch.universal + kind.offset * microsPerSecond) / microsPerDay = 719162 := by
      simp only [Moment.epoch, Moment.universal, epochClock, microsPerDay, microsPerSecond,
        Option.getD_some]
      omega
    unfold ZonedTime.date Moment.date
    rcases hclock with hday | hday
    · rw [hday]
      left
      decide
    · rw [hday]
      right
      decide
  · cases h

/-! ## Fields -/

namespace DatePattern

theorem nameAt_ne_none {names : List String} {i : Nat} (h : i < names.length) :
    nameAt names i ≠ none := by
  simp [nameAt, h]

theorem nameAt_widthOf_ne_none {f : NameForms} {n i count : Nat} (h : f.Covers n) (hi : i < n)
    (hcount : count ≤ 5) : nameAt (f.get (widthOf count)) i ≠ none := by
  obtain ⟨hwide, habbreviated, hnarrow⟩ := h
  apply nameAt_ne_none
  unfold widthOf
  split
  · exact Nat.lt_of_lt_of_le hi habbreviated
  · split
    · exact Nat.lt_of_lt_of_le hi hwide
    · rw [if_pos (by omega)]
      exact Nat.lt_of_lt_of_le hi hnarrow

theorem nameAt_weekday_ne_none {f : NameForms} {i : Nat}
    (h : f.Covers 7 ∧ 7 ≤ f.short.length) (hi : i < 7) (count : Nat) :
    nameAt (f.get (widthOf count)) i ≠ none := by
  by_cases hcount : count ≤ 5
  · exact nameAt_widthOf_ne_none h.1 hi hcount
  · unfold widthOf
    rw [if_neg (by omega), if_neg (by omega), if_neg (by omega)]
    exact nameAt_ne_none (Nat.lt_of_lt_of_le hi h.2)

theorem count_le_of_hasFieldLength {letter : CodePoint} {count limit : Nat}
    (h : hasFieldLength (.field letter count) = true)
    (hlimit : (fieldLengths.find? (·.1 = letter)).any
      (fun r => r.2.any (·.all (· ≤ limit))) = true) : count ≤ limit := by
  unfold hasFieldLength at h
  cases hfind : fieldLengths.find? (·.1 = letter) with
  | none => simp [hfind] at hlimit
  | some r =>
    obtain ⟨c, lengths⟩ := r
    cases lengths with
    | none => simp [hfind] at hlimit
    | some lengths =>
      simp only [hfind, List.contains_iff_mem] at h
      simp only [hfind, Option.any_some, List.all_eq_true, decide_eq_true_eq] at hlimit
      exact hlimit count h

variable {l : Locale} {t : ZonedTime} {letter : CodePoint} {count : Nat}

theorem quarterText_ne_none {names : LocaleNames} (h : names.quarters.Covers 4) {quarter : Nat}
    (hquarter : quarter < 4) (hcount : count ≤ 5) :
    dateField.quarterText names count quarter ≠ none := by
  unfold dateField.quarterText
  split
  · exact Option.some_ne_none _
  · exact nameAt_widthOf_ne_none h hquarter hcount

theorem monthText_ne_none {forms : NameForms} (h : forms.Covers 12) {month : Nat}
    (hmonth : 1 ≤ month ∧ month ≤ 12) (hcount : count ≤ 5) :
    dateField.monthText forms count month ≠ none := by
  unfold dateField.monthText
  split
  · exact Option.some_ne_none _
  · exact nameAt_widthOf_ne_none h (by omega) hcount

theorem weekOfYear?_ne_none {d : Date} (h : 1 < d.year ∧ d.year < 9999) :
    ZonedTime.weekOfYear? l d ≠ none := by
  unfold ZonedTime.weekOfYear?
  simp only
  split
  · rw [if_neg (by omega)]
    exact Option.some_ne_none _
  · split
    · rw [if_neg (by omega)]
      split
      · exact Option.some_ne_none _
      · exact Option.some_ne_none _
    · exact Option.some_ne_none _

theorem weekYear?_ne_none {d : Date} (h : 1 < d.year ∧ d.year < 9999) :
    ZonedTime.weekYear? l d ≠ none := by
  have hweek := weekOfYear?_ne_none (l := l) h
  unfold ZonedTime.weekYear?
  split
  · rwa [ne_eq, Option.map_eq_none_iff]
  · split
    · rwa [ne_eq, Option.map_eq_none_iff]
    · exact Option.some_ne_none _

/-- Letters of the fields that look at the date. -/
def dateLetters : List CodePoint :=
  ['G', 'y', 'u', 'Y', 'Q', 'q', 'M', 'L', 'w', 'W', 'd', 'D', 'F', 'E', 'e', 'c']

/-- Letters of the fields that look at the time of day, the fraction of a second apart. -/
def timeLetters : List CodePoint := ['a', 'b', 'B', 'h', 'H', 'K', 'k', 'm', 's', 'A']

theorem dateField_ne_none (hday : t.date = ⟨1969, 12, 31⟩ ∨ t.date = ⟨1970, 1, 1⟩)
    (hlength : hasFieldLength (.field letter count) = true)
    (hletter : letter ∈ dateLetters) : dateField l t letter count ≠ none := by
  obtain ⟨hera, ⟨hmonths, hmonthsAlone⟩, hweekdays, hweekdaysAlone, hquarters, -⟩ :=
    l.isComplete_names
  have hmonth : 1 ≤ t.date.month ∧ t.date.month ≤ 12 := by
    rcases hday with h | h
    · simp [h]
    · simp [h]
  have hyear : 1 < t.date.year ∧ t.date.year < 9999 := by
    rcases hday with h | h
    · simp [h]
    · simp [h]
  have hweekday : t.date.weekday < 7 := Nat.mod_lt _ (by decide)
  unfold dateField
  simp only
  split
  · exact nameAt_widthOf_ne_none hera (by decide)
      (count_le_of_hasFieldLength hlength (by decide))
  · exact Option.some_ne_none _
  · exact Option.some_ne_none _
  · rw [ne_eq, Option.map_eq_none_iff]
    exact weekYear?_ne_none hyear
  · exact quarterText_ne_none hquarters (by omega)
      (count_le_of_hasFieldLength hlength (by decide))
  · exact quarterText_ne_none hquarters (by omega)
      (count_le_of_hasFieldLength hlength (by decide))
  · exact monthText_ne_none hmonths hmonth (count_le_of_hasFieldLength hlength (by decide))
  · exact monthText_ne_none hmonthsAlone hmonth (count_le_of_hasFieldLength hlength (by decide))
  · rw [ne_eq, Option.map_eq_none_iff]
    exact weekOfYear?_ne_none hyear
  · exact Option.some_ne_none _
  · exact Option.some_ne_none _
  · exact Option.some_ne_none _
  · exact Option.some_ne_none _
  · exact nameAt_weekday_ne_none hweekdays hweekday count
  · split
    · exact Option.some_ne_none _
    · exact nameAt_weekday_ne_none hweekdays hweekday count
  · split
    · exact Option.some_ne_none _
    · exact nameAt_weekday_ne_none hweekdaysAlone hweekday count
  · simp_all [dateLetters]

theorem mem_of_dayPartAt? {parts : List DayPart} {second : Nat} {p : DayPart}
    (h : dayPartAt? parts second = some p) : p ∈ parts := by
  unfold dayPartAt? at h
  split at h
  · rename_i hfind
    cases h
    exact List.mem_of_find?_eq_some hfind
  · exact List.mem_of_find?_eq_some h

theorem timeField_ne_none (hlength : hasFieldLength (.field letter count) = true)
    (hletter : letter ∈ timeLetters) : timeField l t letter count ≠ none := by
  obtain ⟨-, -, -, -, -, hhalves, hparts⟩ := l.isComplete_names
  have hhour : t.moment.hour / 12 < 2 := by
    have hlt := t.moment.isTime.1
    omega
  have hhalf : count ≤ 5 →
      nameAt (l.names.halves.get (widthOf count)) (t.moment.hour / 12) ≠ none :=
    nameAt_widthOf_ne_none hhalves hhour
  unfold timeField
  simp only
  split
  · exact hhalf (count_le_of_hasFieldLength hlength (by decide))
  · have hcount : count ≤ 5 := count_le_of_hasFieldLength hlength (by decide)
    split
    · rename_i p hp
      exact nameAt_widthOf_ne_none (hparts p (mem_of_dayPartAt? hp)).2 (by decide) hcount
    · exact hhalf hcount
  · have hcount : count ≤ 5 := count_le_of_hasFieldLength hlength (by decide)
    split
    · rename_i p hp
      exact nameAt_widthOf_ne_none (hparts p (mem_of_dayPartAt? hp)).1 (by decide) hcount
    · exact hhalf hcount
  · exact Option.some_ne_none _
  · exact Option.some_ne_none _
  · exact Option.some_ne_none _
  · exact Option.some_ne_none _
  · exact Option.some_ne_none _
  · exact Option.some_ne_none _
  · exact Option.some_ne_none _
  · simp_all [timeLetters]

theorem mem_fieldLengths_of_hasFieldLength (h : hasFieldLength (.field letter count) = true) :
    ∃ r ∈ fieldLengths, r.1 = letter := by
  unfold hasFieldLength at h
  cases hfind : fieldLengths.find? (·.1 = letter) with
  | none => simp [hfind] at h
  | some r =>
    have hr : r.1 = letter := by simpa using List.find?_some hfind
    exact ⟨r, List.mem_of_find?_eq_some hfind, hr⟩

theorem eq_of_fieldText_eq_none (hday : t.date = ⟨1969, 12, 31⟩ ∨ t.date = ⟨1970, 1, 1⟩)
    (hlength : hasFieldLength (.field letter count) = true)
    (h : fieldText l t letter count = .ok none) : letter = 'g' := by
  unfold fieldText at h
  split at h
  · split at h
    · cases h
    · cases h
  · cases h
  · cases h
  · cases h
  · cases h
  · cases h
  · cases h
  · cases h
  · obtain ⟨hdate, htime⟩ := Option.or_eq_none_iff.1 (Except.ok.inj h)
    have hletters : ∀ r ∈ fieldLengths, .char r.1 ∈ "SzvVZOXx".toText ∨ r.1 = 'g' ∨
        .char r.1 ∈ dateLetters ∨ .char r.1 ∈ timeLetters := by decide
    obtain ⟨r, hr, rfl⟩ := mem_fieldLengths_of_hasFieldLength hlength
    rcases hletters r hr with hother | hg | hc | hc
    · simp_all
    · rw [hg]
    · exact absurd hdate (dateField_ne_none hday hlength hc)
    · exact absurd htime (timeField_ne_none hlength hc)

theorem fieldText_modifiedJulianDay (l : Locale) (t : ZonedTime) (count : Nat) :
    fieldText l t 'g' count = .ok none := rfl

/-! ## Patterns -/

/-- What has no text on a trial day has none at any time, by induction on the pattern. -/
theorem apply_ne_some {pieces : DatePattern}
    (hday : t.date = ⟨1969, 12, 31⟩ ∨ t.date = ⟨1970, 1, 1⟩)
    (hlengths : pieces.all hasFieldLength = true) (h : pieces.apply l t = .ok none)
    (t' : ZonedTime) (text : Text) : pieces.apply l t' ≠ .ok (some text) := by
  induction pieces generalizing text with
  | nil => cases h
  | cons piece ps ih =>
    rw [List.all_cons, Bool.and_eq_true] at hlengths
    cases piece with
    | literal w =>
      unfold apply at h ⊢
      split at h
      · cases h
      · have hrest := ih hlengths.2 h
        split
        · rename_i hok
          exact absurd hok (hrest _)
        · exact hrest text
    | field letter count =>
      unfold apply at h ⊢
      split at h
      · cases h
      · rename_i hnone
        rw [eq_of_fieldText_eq_none hday hlengths.1 hnone, fieldText_modifiedJulianDay]
        simp
      · split at h
        · cases h
        · have hrest := ih hlengths.2 h
          split
          · simp
          · simp
          · split
            · rename_i hok
              exact absurd hok (hrest _)
            · exact hrest text

end DatePattern

section

variable {m : Moment} {pattern locale : Text} {zone : Zone}

theorem writeDate_eq_some_iff {text : Text} :
    writeDate m pattern zone locale = .ok (some text) ↔
      (DatePattern.read pattern).all DatePattern.hasFieldLength = true ∧
        ∃ t id id', ZonedTime.ofMoment m zone = .ok t ∧ LocaleId.parse? locale = some id ∧
          Locale.resolve? id = some id' ∧
          (DatePattern.read pattern).apply ⟨id'⟩ t = .ok (some text) := by
  unfold writeDate
  -- any resolution of locales will do; the table behind this one must not be unfolded
  obtain ⟨resolve, hresolve⟩ : ∃ resolve, resolve = Locale.resolve? := ⟨_, rfl⟩
  rw [← hresolve]
  constructor
  · intro h
    simp only at h
    split at h
    · cases h
    · rename_i hlengths
      split at h
      · cases h
      · rename_i t ht
        split at h
        · cases h
        · rename_i id hid
          split at h
          · cases h
          · rename_i id' hid'
            exact ⟨by simpa using hlengths, t, id, id', ht, hid, hid', h⟩
  · rintro ⟨hlengths, t, id, id', ht, hid, hid', happly⟩
    simp only [hlengths, ht, hid, hid', happly, Bool.not_true, Bool.false_eq_true, if_false]

/-- Why a date is turned down: the length of a field, a locale that is no identifier, or a field
without a text. -/
theorem writeDate_eq_none (h : writeDate m pattern zone locale = .ok none) :
    (DatePattern.read pattern).all DatePattern.hasFieldLength = false ∨
      LocaleId.parse? locale = none ∨
      ∃ t id id', ZonedTime.ofMoment m zone = .ok t ∧ LocaleId.parse? locale = some id ∧
        Locale.resolve? id = some id' ∧
        (DatePattern.read pattern).apply ⟨id'⟩ t = .ok none := by
  unfold writeDate at h
  obtain ⟨resolve, hresolve⟩ : ∃ resolve, resolve = Locale.resolve? := ⟨_, rfl⟩
  rw [← hresolve] at h ⊢
  simp only at h
  split at h
  · rename_i hlengths
    exact .inl (by simpa using hlengths)
  · split at h
    · cases h
    · rename_i t ht
      split at h
      · rename_i hid
        exact .inr (.inl hid)
      · rename_i id hid
        split at h
        · cases h
        · rename_i id' hid'
          exact .inr (.inr ⟨t, id, id', ht, hid, hid', h⟩)

end

/-- The package that runs settles a pattern by a trial at the epoch. -/
theorem settles_standard : Packages.standard.Settles Moment.epoch := by
  intro pattern zone locale h m zone' text hok
  obtain ⟨hlengths, t', id, id', -, hid, hid', happly⟩ := writeDate_eq_some_iff.1 hok
  rcases writeDate_eq_none h with hfalse | hnone | ⟨t, id₁, id₁', ht, hid₁, hid₁', hnone⟩
  · rw [hlengths] at hfalse
    cases hfalse
  · rw [hid] at hnone
    cases hnone
  · rw [hid] at hid₁
    cases hid₁
    rw [hid'] at hid₁'
    cases hid₁'
    exact DatePattern.apply_ne_some (date_of_epoch ht) hlengths hnone t' text happly

end BraceTemplate.Calendar
