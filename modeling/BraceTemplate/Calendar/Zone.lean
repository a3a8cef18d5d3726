import BraceTemplate.Calendar.Moment
import BraceTemplate.Calendar.ZoneTable
import BraceTemplate.Text.RangeTable

/-!
# BraceTemplate.Calendar.Zone

Time zones: the local time that holds at an instant. A zone has a list of past transitions and a
rule for all later times. Instants are seconds since 1 January 1970.
-/

namespace BraceTemplate.Calendar

/-- A kind of local time: its offset from universal time in seconds, less than a day to either
side, and whether it is daylight saving time. -/
structure LocalKind where
  offset : Int
  isDaylight : Bool
  offset_lt : -86400 < offset ∧ offset < 86400
  deriving DecidableEq, Repr

/-- A time of every year: the given weekday of a month for the `week`-th time, or for the last time
if `week` is 5, and the second of that day. Sunday is weekday 0. -/
structure YearlyTime where
  month : Nat
  week : Nat
  weekday : Nat
  second : Int
  deriving DecidableEq, Repr

inductive ZoneRule where
  | fixed (kind : LocalKind)
  /-- Standard and daylight saving time, and when the latter begins and ends, each on the clock that
  is left. -/
  | seasons (standard daylight : LocalKind) (start stop : YearlyTime)
  deriving DecidableEq, Repr

structure Zone where
  name : Text
  /-- What holds before the first transition. -/
  before : LocalKind
  transitions : List (Int × LocalKind)
  /-- What holds after the last transition. -/
  after : ZoneRule
  deriving DecidableEq, Repr

namespace LocalKind

/-- Universal time. -/
def universal : LocalKind := ⟨0, false, by decide⟩

/-- The kind with an offset; universal time for an offset of a day or more. -/
def ofOffset (offset : Int) (isDaylight : Bool) : LocalKind :=
  if h : -86400 < offset ∧ offset < 86400 then ⟨offset, isDaylight, h⟩ else universal

end LocalKind

namespace YearlyTime

/-- The local time in a year, in seconds since 1 January 1970. -/
def inYear (t : YearlyTime) (year : Nat) : Int :=
  let first := (⟨year, t.month, 1⟩ : Date).toDays
  let toWeekday := (t.weekday + 7 - (first + 1) % 7) % 7
  let day := toWeekday + 7 * (t.week - 1)
  let day := if day < daysInMonth year t.month then day else day - 7
  ((first + day : Nat) : Int) * 86400 + t.second - epochClock / microsPerSecond

end YearlyTime

/-- The year of an instant on a universal clock. -/
def yearOfInstant (seconds : Int) : Nat :=
  (Date.ofDays ((seconds * microsPerSecond + epochClock) / microsPerDay).toNat).year

namespace ZoneRule

def kindAt (rule : ZoneRule) (seconds : Int) : LocalKind :=
  match rule with
  | fixed kind => kind
  | seasons standard daylight start stop =>
    let year := yearOfInstant seconds
    let a := start.inYear year - standard.offset
    let b := stop.inYear year - daylight.offset
    let isDaylight :=
      if a < b then decide (a ≤ seconds) && decide (seconds < b)
      else !(decide (b ≤ seconds) && decide (seconds < a))
    if isDaylight then daylight else standard

end ZoneRule

namespace Zone

def utc : Zone := ⟨"UTC".toText, .universal, [], .fixed .universal⟩

/-- The kind of the last transition that is not later than an instant; the rule takes over behind
the last one. -/
def kindAfter (rule : ZoneRule) (seconds : Int) :
    LocalKind → List (Int × LocalKind) → LocalKind
  | _, [] => rule.kindAt seconds
  | current, [(start, kind)] =>
    if seconds < start then current
    else if seconds = start then kind
    else rule.kindAt seconds
  | current, (start, kind) :: rest =>
    if seconds < start then current else kindAfter rule seconds kind rest

/-- The local time that holds at an instant. -/
def kindAt (zone : Zone) (seconds : Int) : LocalKind :=
  kindAfter zone.after seconds zone.before zone.transitions

/-- Pairs of an offset and 1 for daylight saving time. -/
def readKinds : List Int → List LocalKind
  | offset :: daylight :: rest => .ofOffset offset (daylight == 1) :: readKinds rest
  | _ => []

/-- Pairs of a distance, in quarters of an hour or in negative seconds, and the number of a kind. -/
def readTransitions (kinds : List LocalKind) (previous : Int) : List Int → List (Int × LocalKind)
  | distance :: kind :: rest =>
    let start := previous + (if distance < 0 then -distance else distance * 900)
    (start, kinds.getD kind.toNat .universal) :: readTransitions kinds start rest
  | _ => []

def readRule : List Int → ZoneRule
  | [standard, daylight, m, w, d, s, m', w', d', s'] =>
    .seasons (.ofOffset standard false) (.ofOffset daylight true)
      ⟨m.toNat, w.toNat, d.toNat, s⟩ ⟨m'.toNat, w'.toNat, d'.toNat, s'⟩
  | offset :: _ => .fixed (.ofOffset offset false)
  | [] => .fixed .universal

/-- A zone from the fields of a row behind the names. -/
def ofFields (name : Text) (fields : List Text) : Zone :=
  match fields.map fun f => Text.readNumbers (f.map CodePoint.toChar) with
  | [kindNumbers, transitionNumbers, ruleNumbers] =>
    let kinds := readKinds kindNumbers
    ⟨name, kinds.headD .universal, readTransitions kinds zoneTableStart transitionNumbers,
      readRule ruleNumbers⟩
  | _ => utc

/-- Every row of the table: its names and its fields. -/
def rows : List (List Text × List Text) :=
  (Text.splitOn ';' zoneRows.toText).map fun row =>
    match Text.splitOn '|' row with
    | names :: fields =>
      let spaced := names.map fun c => if c = .char '\n' then .char ' ' else c
      ((Text.splitOn ' ' spaced).filter (!·.isEmpty), fields)
    | [] => ([], [])

/-- The zone with a name, which is written exactly as in the database. -/
def find? (name : Text) : Option Zone :=
  (rows.find? fun row => row.1.contains name).map fun row => ofFields name row.2

end Zone

end BraceTemplate.Calendar
