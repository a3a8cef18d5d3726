import BraceTemplate.Operator.Apply
import BraceTemplate.Proofs.DayNumbers

/-!
# BraceTemplate.Proofs.Instant

A formatted date depends on nothing but the instant. A moment with an offset, a moment without one
and a number of milliseconds that denote one instant are one time on the clock of every zone
(`IsAt`), and a date of them is one text or one failure (`apply_date_of_denotes`).

The three are read in different ways; what is left of each is its universal clock
(`toMoment?_of_denotes`), and a zone's clock looks at that alone.
-/

namespace BraceTemplate

namespace Calendar

/-! ## The clock of a zone -/

/-- In UTC the instant lies in the years 2 to 9998, so that every clock reads it in the calendar. -/
def IsInner (t : Int) : Prop :=
  2 ≤ (Moment.mk t (some 0)).date.year ∧ (Moment.mk t (some 0)).date.year ≤ 9998

instance (t : Int) : Decidable (IsInner t) := inferInstanceAs (Decidable (_ ∧ _))

/-- A day at least lies between the instant and either end of the calendar. -/
theorem IsInner.bounds {t : Int} (h : IsInner t) :
    microsPerDay ≤ t ∧ t + microsPerDay < clockEnd := by
  obtain ⟨hfirst, hlast⟩ := h
  obtain ⟨n, hn⟩ : ∃ n, (t / microsPerDay).toNat = n := ⟨_, rfl⟩
  obtain ⟨a, b, c, d, hb, hc, hd, hyear, hdays, hday⟩ := exists_cycles n
  simp only [Moment.date, hn, Date.ofDays_eq, hyear] at hfirst hlast
  have hinner : 365 ≤ n ∧ n < 3651694 := by omega
  unfold clockEnd dayCount microsPerDay at *
  omega

/-- On the clock of a zone it is this instant: the fields of the date and of the time of day are in
their bounds, and with the offset that the zone has then they give the instant, as no others do. -/
structure ZonedTime.IsAt (here : ZonedTime) (zone : Zone) (t : Int) : Prop where
  zone_eq : here.zone = zone
  offset_eq : here.offset =
    (zone.kindAt ((t - epochClock) / microsPerSecond)).offset * microsPerSecond
  isValid_date : here.date.isValid = true
  isTime : IsTime here.moment.hour here.moment.minute here.moment.second here.moment.micro
  universal_eq : (Moment.ofFields here.date here.moment.hour here.moment.minute here.moment.second
    here.moment.micro (some here.offset)).universal = t
  unique : ∀ (d : Date) (hour minute second micro : Nat), d.isValid = true →
    IsTime hour minute second micro →
    (Moment.ofFields d hour minute second micro (some here.offset)).universal = t →
    d = here.date ∧ hour = here.moment.hour ∧ minute = here.moment.minute ∧
      second = here.moment.second ∧ micro = here.moment.micro

theorem ZonedTime.exists_isAt {m : Moment} {t : Int} (hm : m.universal = t) (ht : IsInner t)
    (zone : Zone) : ∃ here, ofMoment m zone = .ok here ∧ here.IsAt zone t := by
  obtain ⟨hfirst, hlast⟩ := ht.bounds
  obtain ⟨kind, hkind⟩ : ∃ kind, zone.kindAt ((t - epochClock) / microsPerSecond) = kind :=
    ⟨_, rfl⟩
  obtain ⟨offset, hoffset⟩ : ∃ offset, kind.offset * microsPerSecond = offset := ⟨_, rfl⟩
  have hday : -microsPerDay < offset ∧ offset < microsPerDay := by
    have hlt := kind.offset_lt
    unfold microsPerDay microsPerSecond at *
    omega
  have huniversal : 0 ≤ t ∧ t < clockEnd := by
    unfold microsPerDay at *
    omega
  have hclock : 0 ≤ t + offset ∧ t + offset < clockEnd := by omega
  have hread : ofMoment m zone = .ok ⟨⟨t + offset, some offset⟩, kind.isDaylight, zone⟩ := by
    simp [ofMoment, hm, hkind, hoffset, Moment.inCalendar, huniversal, hclock]
  refine ⟨_, hread, rfl, ?_, Moment.isValid_date hclock.2, Moment.isTime _, ?_, ?_⟩
  · rw [hkind, hoffset]
    rfl
  · refine (congrArg Moment.universal (Moment.ofFields_fields hclock.1)).trans ?_
    rw [Moment.universal, Option.getD_some, Int.add_sub_cancel]
  · intro d hour minute second micro hdate htime hinstant
    have hsame : Moment.ofFields d hour minute second micro (some offset) =
        ⟨t + offset, some offset⟩ := by
      rw [← hinstant]
      simp [ZonedTime.offset, Moment.universal, Moment.ofFields]
    obtain ⟨hd, hh, hmin, hs, hmicro⟩ := Moment.fields_ofFields hdate htime (some offset)
    rw [hsame] at hd hh hmin hs hmicro
    exact ⟨hd.symm, hh.symm, hmin.symm, hs.symm, hmicro.symm⟩

theorem ZonedTime.ofMoment_of_universal {m m' : Moment} (h : m.universal = m'.universal)
    (zone : Zone) : ofMoment m zone = ofMoment m' zone := by
  unfold ofMoment
  rw [h]

theorem formatDate_of_universal {m m' : Moment} (h : m.universal = m'.universal)
    (pattern : Text) (zone : Zone) (locale : Text) :
    formatDate m pattern zone locale = formatDate m' pattern zone locale := by
  have hwrite : Packages.writeDate m pattern zone locale =
      Packages.writeDate m' pattern zone locale := by
    show writeDate m pattern zone locale = writeDate m' pattern zone locale
    unfold writeDate
    rw [ZonedTime.ofMoment_of_universal h]
  simp only [formatDate, hwrite]

end Calendar

open Calendar

/-! ## Values -/

/-- The instant that a value denotes, in microseconds since the calendar began. -/
inductive Value.Denotes : Value → Int → Prop
  /-- A moment with an offset is that much ahead of the universal clock. -/
  | aware {clock offset t : Int} (h : clock = t + offset) :
    Denotes (.moment ⟨clock, some offset⟩) t
  /-- A moment without an offset is on the universal clock. -/
  | naive (t : Int) : Denotes (.moment ⟨t, Option.none⟩) t
  /-- A number of milliseconds since 1970, or of those before it if it is negative. -/
  | millis {ms t : Int} (h : t = epochClock + ms * 1000) : Denotes (.int ms) t

theorem Value.toMoment?_of_denotes {v : Value} {t : Int} (hv : v.Denotes t) (ht : IsInner t) :
    ∃ m, v.toMoment? = .ok (some m) ∧ m.universal = t := by
  obtain ⟨hfirst, hlast⟩ := ht.bounds
  cases hv with
  | aware h =>
    refine ⟨_, rfl, ?_⟩
    rw [Moment.universal, Option.getD_some, h, Int.add_sub_cancel]
  | naive =>
    refine ⟨⟨t, some 0⟩, ?_, Int.sub_zero t⟩
    simp only [toMoment?, if_neg (Int.not_lt.2 hfirst)]
  | millis h =>
    have hcalendar : Moment.inCalendar t = true := by
      unfold microsPerDay at *
      simp only [Moment.inCalendar, Bool.and_eq_true, decide_eq_true_eq]
      omega
    refine ⟨⟨t, some 0⟩, ?_, Int.sub_zero t⟩
    simp only [toMoment?, ← h, hcalendar, if_true]

namespace Operator

variable {v w : Value}

theorem applyDate_of_universal {m m' : Moment} (hv : v.toMoment? = .ok (some m))
    (hw : w.toMoment? = .ok (some m')) (h : m.universal = m'.universal) (ctx : Context)
    (pattern zone : Reference) :
    applyDate ctx pattern zone v = applyDate ctx pattern zone w := by
  unfold applyDate
  rw [hv, hw]
  simp only [Evaluation.ofFault, pure_bind, formatDate_of_universal h]

/-- Two values that denote one instant are one time on every clock, and a date of them is one text
or one failure. -/
theorem apply_date_of_denotes {t : Int} (hv : v.Denotes t) (hw : w.Denotes t) (ht : IsInner t) :
    (∀ ctx pattern zone, (date pattern zone).apply ctx v = (date pattern zone).apply ctx w) ∧
      ∀ z, ∃ m m' here, v.toMoment? = .ok (some m) ∧ w.toMoment? = .ok (some m') ∧
        ZonedTime.ofMoment m z = .ok here ∧ ZonedTime.ofMoment m' z = .ok here ∧
        here.IsAt z t := by
  obtain ⟨m, hm, huniversal⟩ := Value.toMoment?_of_denotes hv ht
  obtain ⟨m', hm', huniversal'⟩ := Value.toMoment?_of_denotes hw ht
  have hsame : m.universal = m'.universal := huniversal.trans huniversal'.symm
  constructor
  · intro ctx pattern zone
    rw [apply, apply, applyText, applyText, applyDate_of_universal hm hm' hsame]
  · intro z
    obtain ⟨here, hhere, hat⟩ := ZonedTime.exists_isAt huniversal ht z
    refine ⟨m, m', here, hm, hm', hhere, ?_, hat⟩
    rw [← ZonedTime.ofMoment_of_universal hsame]
    exact hhere

/-- The last millisecond of 1969, as a negative number and on a clock on which it is 1970. -/
theorem apply_date_of_denotes_new_year :
    let v := Value.int (-1)
    let w := Value.moment (Moment.ofFields ⟨1970, 1, 1⟩ 5 29 59 999000 (some 19800000000))
    let t := epochClock - 1000
    v.Denotes t ∧ w.Denotes t ∧ IsInner t ∧
      (∀ ctx pattern zone, (date pattern zone).apply ctx v = (date pattern zone).apply ctx w) ∧
      ∃ m here, w.toMoment? = .ok (some m) ∧ ZonedTime.ofMoment m Zone.utc = .ok here ∧
        here.date = ⟨1969, 12, 31⟩ ∧ here.moment.hour = 23 ∧ here.moment.micro = 999000 := by
  intro v w t
  have hv : v.Denotes t := .millis (by decide)
  have hw : w.Denotes t := .aware (by decide)
  have ht : IsInner t := by decide
  obtain ⟨hsame, hread⟩ := apply_date_of_denotes hv hw ht
  obtain ⟨-, m, here, -, hm, -, hhere, hat⟩ := hread Zone.utc
  have hoffset : here.offset = 0 := hat.offset_eq
  obtain ⟨hdate, hhour, -, -, hmicro⟩ := hat.unique ⟨1969, 12, 31⟩ 23 59 59 999000 (by decide)
    (by unfold IsTime; decide) (by rw [hoffset]; decide)
  exact ⟨hv, hw, ht, hsame, m, here, hm, hhere, hdate.symm, hhour.symm, hmicro.symm⟩

end Operator

end BraceTemplate
