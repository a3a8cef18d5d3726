import BraceTemplate.Calendar.ZoneNames
import BraceTemplate.Error
import BraceTemplate.Number.Binary64
import BraceTemplate.Number.Decimal

/-!
# BraceTemplate.Calendar.DatePattern

Date patterns: runs of a letter are fields, and all else is written as it stands. Text between
single quotes is literal, and two quotes are one quote, inside and outside of quoted text. Text
behind a quote that is never closed is left out.
-/

namespace BraceTemplate.Calendar

/-- Letters of fields, and the lengths a field may have; none if any length will do. -/
def fieldLengths : List (Char × Option (List Nat)) :=
  [('G', some [1, 2, 3, 4, 5]), ('y', none), ('Y', none), ('u', none),
   ('Q', some [1, 2, 3, 4, 5]), ('q', some [1, 2, 3, 4, 5]),
   ('M', some [1, 2, 3, 4, 5]), ('L', some [1, 2, 3, 4, 5]),
   ('w', some [1, 2]), ('W', some [1]),
   ('d', some [1, 2]), ('D', some [1, 2, 3]), ('F', some [1]), ('g', none),
   ('E', some [1, 2, 3, 4, 5, 6]), ('e', some [1, 2, 3, 4, 5, 6]), ('c', some [1, 3, 4, 5, 6]),
   ('a', some [1, 2, 3, 4, 5]), ('b', some [1, 2, 3, 4, 5]), ('B', some [1, 2, 3, 4, 5]),
   ('h', some [1, 2]), ('H', some [1, 2]), ('K', some [1, 2]), ('k', some [1, 2]),
   ('m', some [1, 2]),
   ('s', some [1, 2]), ('S', none), ('A', none),
   ('z', some [1, 2, 3, 4]), ('Z', some [1, 2, 3, 4, 5]), ('O', some [1, 4]), ('v', some [1, 4]),
   ('V', some [1, 2, 3, 4]), ('x', some [1, 2, 3, 4, 5]), ('X', some [1, 2, 3, 4, 5])]

def isFieldLetter (c : CodePoint) : Bool := fieldLengths.any (·.1 = c)

inductive DatePiece where
  | literal (text : Text)
  | field (letter : CodePoint) (count : Nat)
  deriving DecidableEq, Repr

abbrev DatePattern : Type := List DatePiece

namespace DatePattern

/-- Stands for two quotes. -/
def quoteMark : CodePoint := CodePoint.ofNat 0

/-- Puts the mark in the place of every two quotes, from the left. -/
def markQuotes : Text → Text
  | [] => []
  | [c] => [c]
  | c :: d :: t =>
    if c = '\'' ∧ d = '\'' then quoteMark :: markQuotes t else c :: markQuotes (d :: t)

def unmark (t : Text) : Text := t.map fun c => if c = quoteMark then '\'' else c

/-- Puts literal text before a pattern. -/
def consText (t : Text) : DatePattern → DatePattern
  | .literal rest :: ps => .literal (unmark t ++ rest) :: ps
  | ps => .literal (unmark t) :: ps

/-- Puts a field letter before a pattern; equal letters make one field. -/
def consLetter (c : CodePoint) : DatePattern → DatePattern
  | .field d n :: ps => if c = d then .field c (n + 1) :: ps else .field c 1 :: .field d n :: ps
  | ps => .field c 1 :: ps

/-- Reads text in which two quotes have been marked; the quoted text read so far comes last
character first. -/
def readMarked : Option Text → Text → DatePattern
  | _, [] => []
  | none, c :: t =>
    if c = '\'' then readMarked (some []) t
    else if isFieldLetter c then consLetter c (readMarked none t)
    else consText [c] (readMarked none t)
  | some quoted, c :: t =>
    if c = '\'' then consText quoted.reverse (readMarked none t)
    else readMarked (some (c :: quoted)) t

/-- The pieces of a written pattern. -/
def read (t : Text) : DatePattern := readMarked none (markQuotes t)

def hasFieldLength : DatePiece → Bool
  | .literal _ => true
  | .field c n =>
    match fieldLengths.find? (·.1 = c) with
    | some (_, some lengths) => lengths.contains n
    | some (_, none) => true
    | none => false

/-- The first letter outside quotes that is no field letter; every single quote opens or closes
quoted text. -/
def unknownLetter? (quoted : Bool) : Text → Option CodePoint
  | [] => none
  | c :: t =>
    if c = '\'' then unknownLetter? (!quoted) t
    else if !quoted && Text.isAsciiLetter c && !isFieldLetter c then some c
    else unknownLetter? quoted t

/-- A number with zeros in front up to a width. -/
def padded (width n : Nat) : Text := Number.zeroPad width (Number.natText n)

def nameAt (names : List String) (i : Nat) : Option Text := names[i]?.map String.toText

/-- The width that a field's length asks for. -/
def widthOf (count : Nat) : NameWidth :=
  if count ≤ 3 then .abbreviated
  else if count = 4 then .wide
  else if count = 5 then .narrow
  else .short

/-- The part of the day that holds at a second of it: an hour of its own first, then the hours
between two others. -/
def dayPartAt? (parts : List DayPart) (second : Nat) : Option DayPart :=
  match parts.find? fun p => p.start = p.stop && p.start * 3600 = second with
  | some p => some p
  | none =>
    parts.find? fun p =>
      if p.start < p.stop then p.start * 3600 ≤ second && second < p.stop * 3600
      else if p.stop < p.start then p.start * 3600 ≤ second || second < p.stop * 3600
      else false

/-- Digits of the fraction of a second, scaled by a power of ten in binary. -/
def fractionDigits (micro count : Nat) : Except Fault Text :=
  if 309 ≤ count then .error .fractionTooLong
  else
    let second := Number.Binary64.div (Number.Binary64.ofInt micro) (Number.Binary64.ofInt 1000000)
    let rounded := second.roundPlaces count
    let scaled := rounded.mul (Number.Binary64.ofInt (Nat.pow 10 count))
    .ok (padded count scaled.truncate.toNat)

/-- The form of an offset that a field's letter and length ask for. -/
def offsetField (names : LocaleNames) (letter : CodePoint) (count : Nat) (seconds : Int) : Text :=
  let long := names.offsetLead.toText ++ offsetDigits [':'] seconds
  let basic := offsetDigits [] seconds
  let extended := offsetDigits [':'] seconds
  let zulu : Text → Text := fun t => if seconds = 0 then ['Z'] else t
  let hours : Text := if seconds % 3600 = 0 then offsetHours seconds else basic
  let byLength : Text := if count = 1 then hours else if count % 2 = 0 then basic else extended
  match letter with
  | 'Z' => if count = 4 then long else if count = 5 then zulu extended else basic
  | 'O' => if count = 4 then long else "None".toText
  | 'X' => zulu byLength
  | _ => byLength

/-- What a field of the date is written as; none for a field without a text. -/
def dateField (l : Locale) (t : ZonedTime) (letter : CodePoint) (count : Nat) : Option Text :=
  let d := t.date
  let names := l.names
  match letter with
  | 'G' => nameAt (names.era.get (widthOf count)) 0
  | 'y' => some (yearText count d.year)
  | 'u' => some (yearText count d.year)
  | 'Y' => (ZonedTime.weekYear? l d).map (yearText count)
  | 'Q' => quarterText names count ((d.month - 1) / 3)
  | 'q' => quarterText names count ((d.month - 1) / 3)
  | 'M' => monthText names.months count d.month
  | 'L' => monthText names.monthsAlone count d.month
  | 'w' => (ZonedTime.weekOfYear? l d).map (padded count)
  | 'W' => some (Number.natText (ZonedTime.weekOfMonth l d))
  | 'd' => some (padded count d.day)
  | 'D' => some (padded count d.dayOfYear)
  | 'F' => some (Number.natText ((d.day - 1) / 7 + 1))
  | 'E' => nameAt (names.weekdays.get (widthOf count)) d.weekday
  | 'e' =>
    if count < 3 then some (padded count (weekdayNumber l d))
    else nameAt (names.weekdays.get (widthOf count)) d.weekday
  | 'c' =>
    if count < 3 then some (padded count (weekdayNumber l d))
    else nameAt (names.weekdaysAlone.get (widthOf count)) d.weekday
  | _ => none
where
  yearText (count year : Nat) : Text :=
    let digits := padded count year
    if count = 2 then digits.drop (digits.length - 2) else digits
  quarterText (names : LocaleNames) (count quarter : Nat) : Option Text :=
    if count ≤ 2 then some (padded count (quarter + 1))
    else nameAt (names.quarters.get (widthOf count)) quarter
  monthText (forms : NameForms) (count month : Nat) : Option Text :=
    if count ≤ 2 then some (padded count month) else nameAt (forms.get (widthOf count)) (month - 1)
  weekdayNumber (l : Locale) (d : Date) : Nat := (7 - l.firstWeekday + d.weekday) % 7 + 1

/-- What a field of the time of day is written as. -/
def timeField (l : Locale) (t : ZonedTime) (letter : CodePoint) (count : Nat) : Option Text :=
  let m := t.moment
  let second := m.dayMicros / 1000000
  let half : Option Text := nameAt (l.names.halves.get (widthOf count)) (m.hour / 12)
  let part : (DayPart → NameForms) → Option Text := fun forms =>
    match dayPartAt? l.names.dayParts second with
    | some p => nameAt ((forms p).get (widthOf count)) 0
    | none => half
  match letter with
  | 'a' => half
  | 'b' => part (·.alone)
  | 'B' => part (·.beside)
  | 'h' => some (padded count (if m.hour % 12 = 0 then 12 else m.hour % 12))
  | 'H' => some (padded count m.hour)
  | 'K' => some (padded count (m.hour % 12))
  | 'k' => some (padded count (if m.hour = 0 then 24 else m.hour))
  | 'm' => some (padded count m.minute)
  | 's' => some (padded count m.second)
  | 'A' => some (padded count (m.dayMicros / 1000))
  | _ => none

/-- What a field is written as; none for a field that has no text. -/
def fieldText (l : Locale) (t : ZonedTime) (letter : CodePoint) (count : Nat) :
    Except Fault (Option Text) :=
  match letter with
  | 'S' =>
    match fractionDigits t.moment.micro count with
    | .ok digits => .ok (some digits)
    | .error f => .error f
  | 'z' => .ok (some (zoneName l t (count = 4)))
  | 'v' => .ok (some (zoneLocation l t.zone.name))
  | 'V' =>
    .ok (some (if count = 1 then zoneLocation l t.zone.name
      else if count = 2 then canonicalZoneName t.zone.name
      else if count = 3 then zoneCity t.zone.name
      else zoneLocation l t.zone.name))
  | 'Z' => .ok (some (offsetField l.names letter count (t.offset / microsPerSecond)))
  | 'O' => .ok (some (offsetField l.names letter count (t.offset / microsPerSecond)))
  | 'X' => .ok (some (offsetField l.names letter count (t.offset / microsPerSecond)))
  | 'x' => .ok (some (offsetField l.names letter count (t.offset / microsPerSecond)))
  | _ => .ok ((dateField l t letter count).or (timeField l t letter count))

/-- The text of a pattern at a time; none if a field has no text. -/
def apply (l : Locale) (t : ZonedTime) : DatePattern → Except Fault (Option Text)
  | [] => .ok (some [])
  | .literal text :: ps =>
    match apply l t ps with
    | .ok (some rest) => .ok (some (text ++ rest))
    | r => r
  | .field letter count :: ps =>
    match fieldText l t letter count with
    | .error f => .error f
    | .ok none => .ok none
    | .ok (some text) =>
      match apply l t ps with
      | .ok (some rest) => .ok (some (text ++ rest))
      | r => r

end DatePattern

/-- An instant in a written pattern, on the clock of a zone and with the names of a locale; none if
a field has a length that it cannot have, the locale is no identifier, or a field has no text. The
lengths are looked at before the instant. -/
def writeDate (m : Moment) (pattern : Text) (zone : Zone) (locale : Text) :
    Except Fault (Option Text) :=
  let pieces := DatePattern.read pattern
  if !pieces.all DatePattern.hasFieldLength then .ok none
  else
    match ZonedTime.ofMoment m zone with
    | .error f => .error f
    | .ok t =>
      match LocaleId.parse? locale with
      | none => .ok none
      | some id =>
        match Locale.resolve? id with
        | none => .error .unknownLocale
        | some id => pieces.apply ⟨id⟩ t

end BraceTemplate.Calendar
