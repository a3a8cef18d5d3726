import BraceTemplate.Calendar.ZonedTime

/-!
# BraceTemplate.Calendar.ZoneNames

Names of time zones for readers. A zone without a name is written as its offset, or as the time of
its region.
-/

namespace BraceTemplate.Calendar

/-- The whole hours of an offset in seconds, rounded down, with their sign. -/
def offsetHours (seconds : Int) : Text :=
  let hours := seconds / 3600
  (if hours < 0 then '-' else '+') :: Number.twoDigits hours.natAbs

/-- Hours of an offset in seconds, and the minutes from them on, with a text between them. -/
def offsetDigits (between : Text) (seconds : Int) : Text :=
  offsetHours seconds ++ between ++ Number.twoDigits (seconds % 3600 / 60).toNat

/-- The name under which a zone is described. -/
def canonicalZoneName (name : Text) : Text :=
  match Text.string name with
  | "UTC" | "UCT" | "Zulu" | "Universal" | "Etc/UCT" | "Etc/Zulu" | "Etc/Universal" =>
    "Etc/UTC".toText
  | "GMT" | "GMT0" | "GMT+0" | "GMT-0" | "Greenwich" | "Etc/GMT0" | "Etc/GMT+0" | "Etc/GMT-0"
  | "Etc/Greenwich" => "Etc/GMT".toText
  | _ => name

/-- The city that a zone is named for. -/
def zoneCity (name : Text) : Text :=
  let canonical := canonicalZoneName name
  let city := match canonical.dropWhile (· ≠ .char '/') with
    | _ :: city => city
    | [] => canonical
  city.map fun c => if c = .char '_' then ' ' else c

/-- The time of a zone's region. -/
def zoneLocation (l : Locale) (name : Text) : Text :=
  let n := l.names
  n.regionTime.1.toText ++ n.unknownRegion.toText ++ " (".toText ++ zoneCity name ++
    .char ')' :: n.regionTime.2.toText

/-- The name of the local time that holds in a zone. -/
def zoneName (l : Locale) (t : ZonedTime) (isLong : Bool) : Text :=
  if canonicalZoneName t.zone.name = "Etc/UTC".toText then
    if isLong then l.names.universalTime.toText else "UTC".toText
  else if canonicalZoneName t.zone.name = "Etc/GMT".toText then
    (if isLong then "Greenwich Mean Time" else "GMT").toText
  else
    let seconds := t.offset / microsPerSecond
    if isLong then l.names.offsetLead.toText ++ offsetDigits [':'] seconds
    else offsetDigits [] seconds

end BraceTemplate.Calendar
