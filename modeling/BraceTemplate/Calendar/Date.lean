import BraceTemplate.Number.Integer

/-!
# BraceTemplate.Calendar.Date

Days of the proleptic Gregorian calendar, counted from 1 January of the year 1 as day 0.
-/

namespace BraceTemplate.Calendar

def isLeap (year : Nat) : Bool := year % 4 == 0 && (year % 100 != 0 || year % 400 == 0)

def daysInMonth (year month : Nat) : Nat :=
  if month = 2 then (if isLeap year then 29 else 28)
  else if month = 4 ∨ month = 6 ∨ month = 9 ∨ month = 11 then 30 else 31

/-- Days before 1 January of a year. -/
def daysBeforeYear (year : Nat) : Nat :=
  let y := year - 1
  y * 365 + y / 4 - y / 100 + y / 400

/-- Days of the year before the first of a month. -/
def daysBeforeMonth (year : Nat) : Nat → Nat
  | 0 => 0
  | 1 => 0
  | m + 1 => daysBeforeMonth year m + daysInMonth year m

/-- Days of the years 1 to 9999. -/
def dayCount : Nat := 3652059

structure Date where
  year : Nat
  month : Nat
  day : Nat
  deriving DecidableEq, Repr

namespace Date

def isValid (d : Date) : Bool :=
  decide (1 ≤ d.year) && decide (d.year ≤ 9999) && decide (1 ≤ d.month) && decide (d.month ≤ 12) &&
    decide (1 ≤ d.day) && decide (d.day ≤ daysInMonth d.year d.month)

def toDays (d : Date) : Nat := daysBeforeYear d.year + daysBeforeMonth d.year d.month + (d.day - 1)

def ofDays (n : Nat) : Date :=
  let n400 := n / 146097
  let r400 := n % 146097
  let n100 := min 3 (r400 / 36524)
  let r100 := r400 - n100 * 36524
  let n4 := r100 / 1461
  let r4 := r100 % 1461
  let n1 := min 3 (r4 / 365)
  let dayOfYear := r4 - n1 * 365
  let year := n400 * 400 + n100 * 100 + n4 * 4 + n1 + 1
  let month := ((List.range 12).map (· + 1)).foldl
    (fun m k => if daysBeforeMonth year k ≤ dayOfYear then k else m) 1
  ⟨year, month, dayOfYear - daysBeforeMonth year month + 1⟩

/-- Monday is 0 and Sunday is 6. -/
def weekday (d : Date) : Nat := d.toDays % 7

/-- The first of January is day 1. -/
def dayOfYear (d : Date) : Nat := daysBeforeMonth d.year d.month + d.day

/-- Year of four digits, month and day of two. -/
def text (d : Date) : Text :=
  Number.zeroPad 4 (Number.natText d.year) ++ .char '-' :: Number.twoDigits d.month ++
    .char '-' :: Number.twoDigits d.day

/-- A date in the form that `text` writes. -/
def ofText? (t : Text) : Option Date :=
  match Text.splitOn '-' t with
  | [y, m, d] =>
    if y.length = 4 ∧ m.length = 2 ∧ d.length = 2 ∧ (y ++ m ++ d).all Text.isAsciiDigit then
      let date : Date := ⟨Number.digitsValue y, Number.digitsValue m, Number.digitsValue d⟩
      if date.isValid then some date else none
    else none
  | _ => none

end Date

end BraceTemplate.Calendar
