import BraceTemplate.Calendar.Moment
import Mathlib.Data.List.Range
import Mathlib.Order.Monotone.Basic

/-!
# BraceTemplate.Proofs.DayNumbers

Dates and the numbers of their days. A day's date is found by taking whole cycles of 400, 100, 4 and
1 years off its number and then the months; it is a date of the calendar
(`Date.isValid_ofDays`), the number of its day is the number that it was found for
(`Date.toDays_ofDays`), and it is the only such date (`Date.ofDays_toDays`). So a moment is given by
its fields (`Moment.ofFields_fields`), and by no others (`Moment.fields_ofFields`).
-/

namespace BraceTemplate.Calendar

theorem eq_of_between {f : Nat → Nat} (hf : Monotone f) {n i j : Nat}
    (hi : f i ≤ n ∧ n < f (i + 1)) (hj : f j ≤ n ∧ n < f (j + 1)) : i = j := by
  rcases Nat.lt_trichotomy i j with hlt | heq | hgt
  · have hstep : f (i + 1) ≤ f j := hf hlt
    omega
  · exact heq
  · have hstep : f (j + 1) ≤ f i := hf hgt
    omega

/-! ## Years -/

/-- The year of a day, and how many days of it have passed. -/
def yearOfDays (n : Nat) : Nat × Nat :=
  let n100 := min 3 (n % 146097 / 36524)
  let r100 := n % 146097 - n100 * 36524
  let n1 := min 3 (r100 % 1461 / 365)
  (n / 146097 * 400 + n100 * 100 + r100 / 1461 * 4 + n1 + 1, r100 % 1461 - n1 * 365)

theorem exists_cycles (n : Nat) : ∃ a b c d : Nat, b ≤ 3 ∧ c ≤ 24 ∧ d ≤ 3 ∧
    (yearOfDays n).1 = a * 400 + b * 100 + c * 4 + d + 1 ∧
    n = a * 146097 + b * 36524 + c * 1461 + d * 365 + (yearOfDays n).2 ∧
    ((yearOfDays n).2 < 365 ∨ (yearOfDays n).2 = 365 ∧ d = 3 ∧ (c = 24 → b = 3)) := by
  unfold yearOfDays
  simp only
  obtain ⟨a, r400, ha, hr400, hn⟩ : ∃ a r400, n / 146097 = a ∧ n % 146097 = r400 ∧
      n = a * 146097 + r400 ∧ r400 < 146097 := ⟨_, _, rfl, rfl, by omega, by omega⟩
  rw [ha, hr400]
  obtain ⟨b, hb, hbound, hr100⟩ : ∃ b, min 3 (r400 / 36524) = b ∧ b ≤ 3 ∧ b * 36524 ≤ r400 ∧
      (r400 < (b + 1) * 36524 ∨ b = 3 ∧ r400 = 4 * 36524) := ⟨_, rfl, by omega, by omega, by omega⟩
  rw [hb]
  obtain ⟨c, r4, hc, hr4, hr⟩ : ∃ c r4, (r400 - b * 36524) / 1461 = c ∧
      (r400 - b * 36524) % 1461 = r4 ∧ r400 - b * 36524 = c * 1461 + r4 ∧ r4 < 1461 :=
    ⟨_, _, rfl, rfl, by omega, by omega⟩
  rw [hc, hr4]
  obtain ⟨d, hd, hdbound, hday⟩ : ∃ d, min 3 (r4 / 365) = d ∧ d ≤ 3 ∧ d * 365 ≤ r4 ∧
      (r4 < (d + 1) * 365 ∨ d = 3 ∧ r4 = 4 * 365) := ⟨_, rfl, by omega, by omega, by omega⟩
  rw [hd]
  exact ⟨a, b, c, d, hbound, by omega, hdbound, rfl, by omega, by omega⟩

/-- Days of the years before a year that is given by whole cycles. -/
theorem daysBeforeYear_cycles {a b c d : Nat} (hb : b ≤ 3) (hc : c ≤ 24) (hd : d ≤ 3) :
    daysBeforeYear (a * 400 + b * 100 + c * 4 + d + 1) =
      a * 146097 + b * 36524 + c * 1461 + d * 365 := by
  unfold daysBeforeYear
  simp only [Nat.add_sub_cancel]
  omega

theorem isLeap_cycles {a b c : Nat} (hc : c ≤ 24) (h : c = 24 → b = 3) :
    isLeap (a * 400 + b * 100 + c * 4 + 3 + 1) = true := by
  unfold isLeap
  simp only [Bool.and_eq_true, Bool.or_eq_true, beq_iff_eq, bne_iff_ne]
  omega

/-- The number of a day is the days before its year and those of the year that have passed. -/
theorem daysBeforeYear_add (n : Nat) :
    daysBeforeYear (yearOfDays n).1 + (yearOfDays n).2 = n := by
  obtain ⟨a, b, c, d, hb, hc, hd, hyear, hn, -⟩ := exists_cycles n
  rw [hyear, daysBeforeYear_cycles hb hc hd]
  exact hn.symm

theorem lt_daysInYear (n : Nat) :
    (yearOfDays n).2 < if isLeap (yearOfDays n).1 then 366 else 365 := by
  obtain ⟨a, b, c, d, hb, hc, -, hyear, -, hday | ⟨hday, rfl, hleap⟩⟩ := exists_cycles n
  · split
    · omega
    · exact hday
  · rw [hyear, isLeap_cycles hc hleap, if_pos rfl]
    omega

theorem daysBeforeYear_succ {year : Nat} (h : 1 ≤ year) :
    daysBeforeYear (year + 1) = daysBeforeYear year + if isLeap year then 366 else 365 := by
  obtain ⟨y, rfl⟩ := Nat.exists_eq_add_of_le' h
  unfold daysBeforeYear isLeap
  -- a quotient grows by one where the divisor divides the next number
  simp only [Nat.add_sub_cancel, Nat.succ_div, Nat.dvd_iff_mod_eq_zero]
  grind

theorem monotone_daysBeforeYear : Monotone daysBeforeYear := by
  refine monotone_nat_of_le_succ fun year => ?_
  cases year with
  | zero => exact Nat.le_refl _
  | succ y =>
    rw [daysBeforeYear_succ (Nat.le_add_left 1 y)]
    exact Nat.le_add_right _ _

theorem one_le_yearOfDays (n : Nat) : 1 ≤ (yearOfDays n).1 := Nat.le_add_left _ _

theorem yearOfDays_le {n : Nat} (h : n < dayCount) : (yearOfDays n).1 ≤ 9999 := by
  obtain ⟨a, b, c, d, hb, hc, hd, hyear, hn, hday⟩ := exists_cycles n
  unfold dayCount at h
  omega

/-! ## Months -/

/-- The last month that begins within the days that have passed. -/
def monthOfDay (year day : Nat) : Nat :=
  ((List.range 12).map (· + 1)).foldl (fun m k => if daysBeforeMonth year k ≤ day then k else m) 1

/-- Going through the numbers in order, what is kept is the last one that fits. -/
theorem foldl_last {f : Nat → Nat} {day : Nat} (hfirst : f 1 ≤ day) (n : Nat) :
    let m := ((List.range n).map (· + 1)).foldl (fun m k => if f k ≤ day then k else m) 1
    1 ≤ m ∧ m ≤ max 1 n ∧ f m ≤ day ∧ ∀ k, m < k → k ≤ n → day < f k := by
  induction n with
  | zero => exact ⟨le_rfl, le_rfl, hfirst, by omega⟩
  | succ n ih =>
    obtain ⟨hpos, hle, hfits, hrest⟩ := ih
    simp only [List.range_succ, List.map_append, List.map_cons, List.map_nil, List.foldl_append,
      List.foldl_cons, List.foldl_nil]
    split
    · rename_i hlast
      exact ⟨by omega, by omega, hlast, by omega⟩
    · rename_i hlast
      refine ⟨hpos, by omega, hfits, fun k hk hkn => ?_⟩
      rcases Nat.lt_or_eq_of_le hkn with hkn | rfl
      · exact hrest k hk (by omega)
      · exact Nat.lt_of_not_le hlast

theorem daysBeforeMonth_succ {year month : Nat} (h : 1 ≤ month) :
    daysBeforeMonth year (month + 1) = daysBeforeMonth year month + daysInMonth year month := by
  cases month with
  | zero => omega
  | succ m => rfl

theorem monotone_daysBeforeMonth (year : Nat) : Monotone (daysBeforeMonth year) := by
  refine monotone_nat_of_le_succ fun month => ?_
  cases month with
  | zero => exact Nat.le_refl _
  | succ m => exact Nat.le_add_right _ _

theorem daysBeforeMonth_thirteen (year : Nat) :
    daysBeforeMonth year 13 = if isLeap year then 366 else 365 := by
  simp only [daysBeforeMonth, daysInMonth]
  cases isLeap year <;> rfl

theorem monthOfDay_spec {year day : Nat} (h : day < if isLeap year then 366 else 365) :
    let m := monthOfDay year day
    1 ≤ m ∧ m ≤ 12 ∧ daysBeforeMonth year m ≤ day ∧
      day < daysBeforeMonth year m + daysInMonth year m := by
  intro m
  obtain ⟨hpos, hle, hfits, hrest⟩ : 1 ≤ m ∧ m ≤ 12 ∧ daysBeforeMonth year m ≤ day ∧
      ∀ k, m < k → k ≤ 12 → day < daysBeforeMonth year k :=
    foldl_last (Nat.zero_le day) 12
  refine ⟨hpos, hle, hfits, ?_⟩
  rw [← daysBeforeMonth_succ hpos]
  rcases Nat.lt_or_eq_of_le hle with hlt | hlast
  · exact hrest (m + 1) (Nat.lt_succ_self m) hlt
  · rw [hlast, daysBeforeMonth_thirteen]
    exact h

/-! ## Dates -/

namespace Date

theorem ofDays_eq (n : Nat) :
    ofDays n =
      let month := monthOfDay (yearOfDays n).1 (yearOfDays n).2
      ⟨(yearOfDays n).1, month, (yearOfDays n).2 - daysBeforeMonth (yearOfDays n).1 month + 1⟩ :=
  rfl

theorem toDays_ofDays (n : Nat) : (ofDays n).toDays = n := by
  obtain ⟨-, -, hfits, -⟩ := monthOfDay_spec (lt_daysInYear n)
  have hyear := daysBeforeYear_add n
  rw [ofDays_eq]
  simp only [toDays]
  omega

theorem isValid_ofDays {n : Nat} (h : n < dayCount) : (ofDays n).isValid = true := by
  obtain ⟨hpos, hle, hfits, hday⟩ := monthOfDay_spec (lt_daysInYear n)
  have hyear := one_le_yearOfDays n
  have hlast := yearOfDays_le h
  rw [ofDays_eq]
  simp only [isValid, Bool.and_eq_true, decide_eq_true_eq]
  omega

theorem ofDays_toDays {d : Date} (h : d.isValid = true) : ofDays d.toDays = d := by
  simp only [isValid, Bool.and_eq_true, decide_eq_true_eq] at h
  obtain ⟨⟨⟨⟨⟨hyear, -⟩, hmonth⟩, hlast⟩, hpos⟩, hday⟩ := h
  obtain ⟨n, hn⟩ : ∃ n, d.toDays = n := ⟨_, rfl⟩
  obtain ⟨k, hk⟩ : ∃ k, daysBeforeMonth d.year d.month + (d.day - 1) = k := ⟨_, rfl⟩
  have hdays : n = daysBeforeYear d.year + k := by
    rw [← hn, ← hk, toDays, Nat.add_assoc]
  have hinMonth : k < daysBeforeMonth d.year (d.month + 1) := by
    rw [daysBeforeMonth_succ hmonth]
    omega
  have hinYear : k < if isLeap d.year then 366 else 365 := by
    rw [← daysBeforeMonth_thirteen]
    exact Nat.lt_of_lt_of_le hinMonth (monotone_daysBeforeMonth _ (Nat.succ_le_succ hlast))
  have hfound := daysBeforeYear_add n
  have hfoundYear : (yearOfDays n).1 = d.year := by
    refine eq_of_between monotone_daysBeforeYear (n := n) ?_ ?_
    · rw [daysBeforeYear_succ (one_le_yearOfDays n)]
      have hlt := lt_daysInYear n
      omega
    · rw [daysBeforeYear_succ hyear]
      omega
  have hfoundDay : (yearOfDays n).2 = k := by
    rw [hfoundYear] at hfound
    omega
  have hfoundMonth : monthOfDay d.year k = d.month := by
    obtain ⟨hone, -, hfits, hrest⟩ := monthOfDay_spec hinYear
    refine eq_of_between (monotone_daysBeforeMonth d.year) (n := k) ?_ ⟨by omega, hinMonth⟩
    rw [daysBeforeMonth_succ hone]
    exact ⟨hfits, hrest⟩
  rw [hn, ofDays_eq]
  simp only [hfoundYear, hfoundDay, hfoundMonth]
  have hback : k - daysBeforeMonth d.year d.month + 1 = d.day := by omega
  rw [hback]

end Date

/-! ## Moments -/

/-- A moment is its date, its time of day and its offset. -/
theorem Moment.ofFields_fields {m : Moment} (h : 0 ≤ m.clock) :
    ofFields m.date m.hour m.minute m.second m.micro m.offset = m := by
  have hday : (0 : Int) ≤ m.clock / microsPerDay := Int.ediv_nonneg h (by decide)
  have hmicros : (m.dayMicros : Int) = m.clock % microsPerDay :=
    Int.toNat_of_nonneg (Int.emod_nonneg _ (by decide))
  have hclock : m.clock / microsPerDay * microsPerDay + m.clock % microsPerDay = m.clock :=
    Int.ediv_mul_add_emod _ _
  have htime : (m.hour * 3600 + m.minute * 60 + m.second) * 1000000 + m.micro = m.dayMicros := by
    unfold hour minute second micro
    omega
  have hcast : ((m.hour : Int) * 3600 + m.minute * 60 + m.second) * microsPerSecond + m.micro =
      m.dayMicros := by
    unfold microsPerSecond
    omega
  unfold ofFields
  rw [date, Date.toDays_ofDays, Int.toNat_of_nonneg hday]
  congr 1
  rw [Int.add_assoc, hcast, hmicros, hclock]

/-- The fields of a time of day. -/
def IsTime (hour minute second micro : Nat) : Prop :=
  hour < 24 ∧ minute < 60 ∧ second < 60 ∧ micro < 1000000

theorem Moment.isTime (m : Moment) : IsTime m.hour m.minute m.second m.micro := by
  have hmicros : m.dayMicros < 86400000000 := by
    unfold dayMicros microsPerDay
    omega
  unfold IsTime hour minute second micro
  omega

theorem Moment.isValid_date {m : Moment} (h : m.clock < clockEnd) : m.date.isValid = true := by
  apply Date.isValid_ofDays
  unfold clockEnd microsPerDay at *
  unfold dayCount at *
  omega

/-- The fields that a moment was made from are its fields. -/
theorem Moment.fields_ofFields {d : Date} {hour minute second micro : Nat}
    (hdate : d.isValid = true) (htime : IsTime hour minute second micro) (offset : Option Int) :
    let m := ofFields d hour minute second micro offset
    m.date = d ∧ m.hour = hour ∧ m.minute = minute ∧ m.second = second ∧ m.micro = micro := by
  intro m
  obtain ⟨hhour, hminute, hsecond, hmicro⟩ := htime
  obtain ⟨k, hk⟩ : ∃ k, (hour * 3600 + minute * 60 + second) * 1000000 + micro = k := ⟨_, rfl⟩
  have hclock : m.clock = d.toDays * microsPerDay + k := by
    simp only [m, ofFields, microsPerSecond]
    omega
  have hday : (m.clock / microsPerDay).toNat = d.toDays := by
    unfold microsPerDay at *
    omega
  have hmicros : m.dayMicros = k := by
    unfold dayMicros microsPerDay at *
    omega
  refine ⟨?_, ?_⟩
  · rw [date, hday, Date.ofDays_toDays hdate]
  · unfold Moment.hour Moment.minute Moment.second Moment.micro
    rw [hmicros]
    omega

end BraceTemplate.Calendar
