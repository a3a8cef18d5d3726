import BraceTemplate.Calendar.Locale
import BraceTemplate.Calendar.Zone
import BraceTemplate.Fault

/-!
# BraceTemplate.Calendar.ZonedTime

An instant on the clock of a zone, and the numbers of weeks and years that a locale gives it.
-/

namespace BraceTemplate.Calendar

structure ZonedTime where
  /-- The zone's clock, with its offset. -/
  moment : Moment
  isDaylight : Bool
  zone : Zone
  deriving DecidableEq, Repr

namespace ZonedTime

/-- The clock of a zone at an instant, if both the universal clock and the zone's clock read a time
of the years 1 to 9999. -/
def ofMoment (m : Moment) (zone : Zone) : Except Fault ZonedTime :=
  let universal := m.universal
  let kind := zone.kindAt ((universal - epochClock) / microsPerSecond)
  let offset := kind.offset * microsPerSecond
  if Moment.inCalendar universal && Moment.inCalendar (universal + offset) then
    .ok ⟨⟨universal + offset, some offset⟩, kind.isDaylight, zone⟩
  else .error .instantOutOfRange

def date (t : ZonedTime) : Date := t.moment.date

def offset (t : ZonedTime) : Int := t.moment.offset.getD 0

/-- The number of the week that a day lies in, counted from the week in which the period's first
`minimalDays` days lie; the day is given by its number in the period and its weekday. -/
def weekNumber (l : Locale) (dayOfPeriod weekday : Nat) : Nat :=
  let firstDay := (((weekday : Int) - l.firstWeekday - dayOfPeriod + 1) % 7).toNat
  (dayOfPeriod + firstDay - 1) / 7 + (if 7 - firstDay ≥ l.minimalDays then 1 else 0)

/-- The week of the year; days before the first week belong to the last week of the year before,
and late days may belong to the first week of the next year. None where that year is no year of the
calendar. -/
def weekOfYear? (l : Locale) (d : Date) : Option Nat :=
  let week := weekNumber l d.dayOfYear d.weekday
  if week = 0 then
    if d.year ≤ 1 then none
    else
      let last : Date := ⟨d.year - 1, 12, 31⟩
      some (weekNumber l last.dayOfYear last.weekday)
  else if 52 < week then
    if 9999 ≤ d.year then none
    else
      let weekday := (⟨d.year + 1, 1, 1⟩ : Date).weekday
      let into := (((weekday : Int) - l.firstWeekday) % 7).toNat
      if weekNumber l 1 weekday = 1 ∧ 32 - into ≤ d.day then some 1 else some week
  else some week

def weekOfMonth (l : Locale) (d : Date) : Nat := weekNumber l d.day d.weekday

/-- The year that the day's week belongs to. -/
def weekYear? (l : Locale) (d : Date) : Option Nat :=
  if d.month = 1 ∧ d.day < 7 then
    (weekOfYear? l d).map fun w => if 52 ≤ w then d.year - 1 else d.year
  else if d.month = 12 ∧ 25 < d.day then
    (weekOfYear? l d).map fun w => if w ≤ 2 then d.year + 1 else d.year
  else some d.year

end ZonedTime

end BraceTemplate.Calendar
