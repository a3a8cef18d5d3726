import BraceTemplate.Calendar.Date

/-!
# BraceTemplate.Calendar.Moment

A moment is the reading of a clock, in microseconds since the calendar began, with the clock's
offset from universal time if it is known. Two moments with offsets denote the same instant if
their readings less their offsets agree.
-/

namespace BraceTemplate.Calendar

def microsPerSecond : Int := 1000000

def microsPerDay : Int := 86400000000

/-- Clock readings run from 0 up to this, exclusive: the end of the year 9999. -/
def clockEnd : Int := dayCount * microsPerDay

/-- The clock reading of 1 January 1970. -/
def epochClock : Int := 719162 * microsPerDay

structure Moment where
  clock : Int
  offset : Option Int
  deriving DecidableEq, Repr

namespace Moment

def inCalendar (clock : Int) : Bool := decide (0 ≤ clock) && decide (clock < clockEnd)

def date (m : Moment) : Date := Date.ofDays (m.clock / microsPerDay).toNat

/-- Microseconds since midnight. -/
def dayMicros (m : Moment) : Nat := (m.clock % microsPerDay).toNat

def hour (m : Moment) : Nat := m.dayMicros / 3600000000

def minute (m : Moment) : Nat := m.dayMicros / 60000000 % 60

def second (m : Moment) : Nat := m.dayMicros / 1000000 % 60

def micro (m : Moment) : Nat := m.dayMicros % 1000000

def ofFields (d : Date) (hour minute second micro : Nat) (offset : Option Int) : Moment :=
  ⟨d.toDays * microsPerDay + (hour * 3600 + minute * 60 + second) * microsPerSecond + micro, offset⟩

/-- The reading of a universal clock at a moment, an unknown offset counting as none. -/
def universal (m : Moment) : Int := m.clock - m.offset.getD 0

/-- Sign, hours, minutes, and seconds and microseconds if there are any. -/
def offsetText (offset : Int) : Text :=
  let n := offset.natAbs
  let sec := n / 1000000
  (if offset < 0 then .char '-' else .char '+') :: Number.twoDigits (sec / 3600) ++
    .char ':' :: Number.twoDigits (sec / 60 % 60) ++
    (if sec % 60 = 0 ∧ n % 1000000 = 0 then []
      else .char ':' :: Number.twoDigits (sec % 60) ++
        (if n % 1000000 = 0 then []
          else .char '.' :: Number.zeroPad 6 (Number.natText (n % 1000000))))

/-- Date and time with a separator between them; microseconds and offset if there are any. -/
def text (separator : CodePoint) (m : Moment) : Text :=
  m.date.text ++ separator :: Number.twoDigits m.hour ++ .char ':' :: Number.twoDigits m.minute ++
    .char ':' :: Number.twoDigits m.second ++
    (if m.micro = 0 then [] else .char '.' :: Number.zeroPad 6 (Number.natText m.micro)) ++
    (match m.offset with
      | none => []
      | some o => offsetText o)

/-- Hours, minutes, and optionally seconds with up to six digits of a fraction, as microseconds. -/
def readClockTime? (t : Text) : Option Nat :=
  let two : Text → Option Nat := fun d =>
    if d.length = 2 ∧ d.all Text.isAsciiDigit then some (Number.digitsValue d) else none
  match Text.splitOn ':' t with
  | [h, m] =>
    match two h, two m with
    | some h, some m => some ((h * 60 + m) * 60000000)
    | _, _ => none
  | [h, m, s] =>
    let whole := s.takeWhile (· ≠ .char '.')
    let part := (s.dropWhile (· ≠ .char '.')).drop 1
    if !part.all Text.isAsciiDigit then none
    else
      match two h, two m, two whole with
      | some h, some m, some s =>
        let micro := Number.digitsValue ((part ++ "000000".toText).take 6)
        some (((h * 60 + m) * 60 + s) * 1000000 + micro)
      | _, _, _ => none
  | _ => none

/-- A moment in the form that `text` writes with the separator `T` or a blank; `Z` is an offset of
zero. -/
def ofText? (t : Text) : Option Moment :=
  let (day, rest) := (t.take 10, t.drop 10)
  match Date.ofText? day, rest with
  | some d, sep :: time =>
    if sep = 'T' ∨ sep = ' ' then
      let clock := time.takeWhile fun c => Text.isAsciiDigit c || c = ':' || c = '.'
      let zone := time.dropWhile fun c => Text.isAsciiDigit c || c = ':' || c = '.'
      let offset : Option (Option Int) := match zone with
        | [] => some none
        | ['Z'] => some (some 0)
        | '+' :: z => (readClockTime? z).map fun n => some (n : Int)
        | '-' :: z => (readClockTime? z).map fun n => some (-(n : Int))
        | _ => none
      match readClockTime? clock, offset with
      | some n, some o => some ⟨d.toDays * microsPerDay + n, o⟩
      | _, _ => none
    else none
  | some d, [] => some ⟨d.toDays * microsPerDay, none⟩
  | _, _ => none

end Moment

end BraceTemplate.Calendar
