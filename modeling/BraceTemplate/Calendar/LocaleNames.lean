import BraceTemplate.Text.Basic

/-!
# BraceTemplate.Calendar.LocaleNames

What is written for months, weekdays, quarters, the era and the parts of a day, by language. Names
stand in the order of the calendar, weeks from Monday on.
-/

namespace BraceTemplate.Calendar

inductive NameWidth where
  | wide
  | abbreviated
  | narrow
  | short
  deriving DecidableEq, Repr

/-- Names in each width; names as short as possible are often the abbreviated ones. -/
structure NameForms where
  wide : List String
  abbreviated : List String
  narrow : List String
  short : List String := abbreviated

/-- A part of the day: the hours from which and before which it holds, the name used beside a time
and the name used alone. An hour of its own has no duration. -/
structure DayPart where
  start : Nat
  stop : Nat
  beside : NameForms
  alone : NameForms

structure LocaleNames where
  era : NameForms
  months : NameForms
  monthsAlone : NameForms
  weekdays : NameForms
  weekdaysAlone : NameForms
  quarters : NameForms
  /-- Before and after noon. -/
  halves : NameForms
  dayParts : List DayPart
  /-- What stands before an offset from universal time. -/
  offsetLead : String
  universalTime : String
  unknownRegion : String
  /-- What stands before and after a region whose time is named. -/
  regionTime : String × String

namespace NameForms

def get (f : NameForms) : NameWidth → List String
  | .wide => f.wide
  | .abbreviated => f.abbreviated
  | .narrow => f.narrow
  | .short => f.short

def same (names : List String) : NameForms := ⟨names, names, names, names⟩

end NameForms

namespace LocaleNames

/-- A day part with one name in every width. -/
def part (start stop : Nat) (beside alone : String) : DayPart :=
  ⟨start, stop, .same [beside], .same [alone]⟩

def english : LocaleNames where
  era := ⟨["Anno Domini"], ["AD"], ["A"], ["AD"]⟩
  months :=
    { wide := ["January", "February", "March", "April", "May", "June", "July", "August",
        "September", "October", "November", "December"]
      abbreviated := ["Jan", "Feb", "Mar", "Apr", "May", "Jun", "Jul", "Aug", "Sep", "Oct", "Nov",
        "Dec"]
      narrow := ["J", "F", "M", "A", "M", "J", "J", "A", "S", "O", "N", "D"] }
  monthsAlone :=
    { wide := ["January", "February", "March", "April", "May", "June", "July", "August",
        "September", "October", "November", "December"]
      abbreviated := ["Jan", "Feb", "Mar", "Apr", "May", "Jun", "Jul", "Aug", "Sep", "Oct", "Nov",
        "Dec"]
      narrow := ["J", "F", "M", "A", "M", "J", "J", "A", "S", "O", "N", "D"] }
  weekdays :=
    { wide := ["Monday", "Tuesday", "Wednesday", "Thursday", "Friday", "Saturday", "Sunday"]
      abbreviated := ["Mon", "Tue", "Wed", "Thu", "Fri", "Sat", "Sun"]
      narrow := ["M", "T", "W", "T", "F", "S", "S"]
      short := ["Mo", "Tu", "We", "Th", "Fr", "Sa", "Su"] }
  weekdaysAlone :=
    { wide := ["Monday", "Tuesday", "Wednesday", "Thursday", "Friday", "Saturday", "Sunday"]
      abbreviated := ["Mon", "Tue", "Wed", "Thu", "Fri", "Sat", "Sun"]
      narrow := ["M", "T", "W", "T", "F", "S", "S"]
      short := ["Mo", "Tu", "We", "Th", "Fr", "Sa", "Su"] }
  quarters :=
    ⟨["1st quarter", "2nd quarter", "3rd quarter", "4th quarter"], ["Q1", "Q2", "Q3", "Q4"],
      ["1", "2", "3", "4"], ["Q1", "Q2", "Q3", "Q4"]⟩
  halves := ⟨["AM", "PM"], ["AM", "PM"], ["a", "p"], ["AM", "PM"]⟩
  dayParts :=
    [⟨0, 0, ⟨["midnight"], ["midnight"], ["mi"], ["midnight"]⟩, .same ["midnight"]⟩,
      ⟨12, 12, ⟨["noon"], ["noon"], ["n"], ["noon"]⟩, .same ["noon"]⟩,
      part 6 12 "in the morning" "morning",
      part 12 18 "in the afternoon" "afternoon",
      part 18 21 "in the evening" "evening",
      part 21 6 "at night" "night"]
  offsetLead := "GMT"
  universalTime := "Coordinated Universal Time"
  unknownRegion := "Unknown Region"
  regionTime := ("", " Time")

/-- English outside the United States. -/
def worldEnglish : LocaleNames :=
  let months (f : NameForms) : NameForms :=
    { f with abbreviated := ["Jan", "Feb", "Mar", "Apr", "May", "Jun", "Jul", "Aug", "Sept", "Oct",
        "Nov", "Dec"] }
  { english with
    months := months english.months
    monthsAlone := months english.monthsAlone
    halves := ⟨["am", "pm"], ["am", "pm"], ["a", "p"], ["am", "pm"]⟩ }

def german : LocaleNames where
  era := .same ["n. Chr."]
  months :=
    { wide := ["Januar", "Februar", "März", "April", "Mai", "Juni", "Juli", "August",
        "September", "Oktober", "November", "Dezember"]
      abbreviated := ["Jan.", "Feb.", "März", "Apr.", "Mai", "Juni", "Juli", "Aug.", "Sept.",
        "Okt.", "Nov.", "Dez."]
      narrow := ["J", "F", "M", "A", "M", "J", "J", "A", "S", "O", "N", "D"] }
  monthsAlone :=
    { wide := ["Januar", "Februar", "März", "April", "Mai", "Juni", "Juli", "August",
        "September", "Oktober", "November", "Dezember"]
      abbreviated := ["Jan", "Feb", "Mär", "Apr", "Mai", "Jun", "Jul", "Aug", "Sep", "Okt", "Nov",
        "Dez"]
      narrow := ["J", "F", "M", "A", "M", "J", "J", "A", "S", "O", "N", "D"] }
  weekdays :=
    { wide := ["Montag", "Dienstag", "Mittwoch", "Donnerstag", "Freitag", "Samstag", "Sonntag"]
      abbreviated := ["Mo.", "Di.", "Mi.", "Do.", "Fr.", "Sa.", "So."]
      narrow := ["M", "D", "M", "D", "F", "S", "S"] }
  weekdaysAlone :=
    { wide := ["Montag", "Dienstag", "Mittwoch", "Donnerstag", "Freitag", "Samstag", "Sonntag"]
      abbreviated := ["Mo", "Di", "Mi", "Do", "Fr", "Sa", "So"]
      narrow := ["M", "D", "M", "D", "F", "S", "S"]
      short := ["Mo.", "Di.", "Mi.", "Do.", "Fr.", "Sa.", "So."] }
  quarters :=
    ⟨["1. Quartal", "2. Quartal", "3. Quartal", "4. Quartal"], ["Q1", "Q2", "Q3", "Q4"],
      ["1", "2", "3", "4"], ["Q1", "Q2", "Q3", "Q4"]⟩
  halves := .same ["AM", "PM"]
  dayParts :=
    [⟨0, 0, ⟨["um Mitternacht"], ["Mitternacht"], ["Mitternacht"], ["Mitternacht"]⟩,
        .same ["Mitternacht"]⟩,
      part 0 5 "nachts" "Nacht",
      part 5 10 "morgens" "Morgen",
      ⟨10, 12, ⟨["vormittags"], ["vorm."], ["vorm."], ["vorm."]⟩,
        ⟨["Vormittag"], ["Vorm."], ["Vorm."], ["Vorm."]⟩⟩,
      part 12 13 "mittags" "Mittag",
      ⟨13, 18, ⟨["nachmittags"], ["nachm."], ["nachm."], ["nachm."]⟩,
        ⟨["Nachmittag"], ["Nachm."], ["Nachm."], ["Nachm."]⟩⟩,
      part 18 24 "abends" "Abend"]
  offsetLead := "GMT"
  universalTime := "Koordinierte Weltzeit"
  unknownRegion := "Unbekannte Region"
  regionTime := ("", " (Ortszeit)")

def french : LocaleNames where
  era := ⟨["après Jésus-Christ"], ["ap. J.-C."], ["ap. J.-C."], ["ap. J.-C."]⟩
  months :=
    { wide := ["janvier", "février", "mars", "avril", "mai", "juin", "juillet", "août",
        "septembre", "octobre", "novembre", "décembre"]
      abbreviated := ["janv.", "févr.", "mars", "avr.", "mai", "juin", "juil.", "août", "sept.",
        "oct.", "nov.", "déc."]
      narrow := ["J", "F", "M", "A", "M", "J", "J", "A", "S", "O", "N", "D"] }
  monthsAlone :=
    { wide := ["janvier", "février", "mars", "avril", "mai", "juin", "juillet", "août",
        "septembre", "octobre", "novembre", "décembre"]
      abbreviated := ["janv.", "févr.", "mars", "avr.", "mai", "juin", "juil.", "août", "sept.",
        "oct.", "nov.", "déc."]
      narrow := ["J", "F", "M", "A", "M", "J", "J", "A", "S", "O", "N", "D"] }
  weekdays :=
    { wide := ["lundi", "mardi", "mercredi", "jeudi", "vendredi", "samedi", "dimanche"]
      abbreviated := ["lun.", "mar.", "mer.", "jeu.", "ven.", "sam.", "dim."]
      narrow := ["L", "M", "M", "J", "V", "S", "D"]
      short := ["lu", "ma", "me", "je", "ve", "sa", "di"] }
  weekdaysAlone :=
    { wide := ["lundi", "mardi", "mercredi", "jeudi", "vendredi", "samedi", "dimanche"]
      abbreviated := ["lun.", "mar.", "mer.", "jeu.", "ven.", "sam.", "dim."]
      narrow := ["L", "M", "M", "J", "V", "S", "D"]
      short := ["lu", "ma", "me", "je", "ve", "sa", "di"] }
  quarters :=
    ⟨["1er trimestre", "2e trimestre", "3e trimestre", "4e trimestre"], ["T1", "T2", "T3", "T4"],
      ["1", "2", "3", "4"], ["T1", "T2", "T3", "T4"]⟩
  halves := .same ["AM", "PM"]
  dayParts :=
    [part 0 0 "minuit" "minuit",
      part 12 12 "midi" "midi",
      ⟨0, 4, ⟨["du matin"], ["matin"], ["matin"], ["matin"]⟩, .same ["nuit"]⟩,
      ⟨4, 12, ⟨["du matin"], ["matin"], ["mat."], ["matin"]⟩,
        ⟨["matin"], ["matin"], ["mat."], ["matin"]⟩⟩,
      ⟨12, 18, ⟨["de l’après-midi"], ["après-midi"], ["ap.m."], ["après-midi"]⟩,
        ⟨["après-midi"], ["après-midi"], ["ap.m."], ["après-midi"]⟩⟩,
      ⟨18, 24, ⟨["du soir"], ["soir"], ["soir"], ["soir"]⟩, .same ["soir"]⟩]
  offsetLead := "UTC"
  universalTime := "temps universel coordonné"
  unknownRegion := "région inconnue"
  regionTime := ("heure : ", "")

def spanish : LocaleNames where
  era := ⟨["después de Cristo"], ["d. C."], ["d. C."], ["d. C."]⟩
  months :=
    { wide := ["enero", "febrero", "marzo", "abril", "mayo", "junio", "julio", "agosto",
        "septiembre", "octubre", "noviembre", "diciembre"]
      abbreviated := ["ene", "feb", "mar", "abr", "may", "jun", "jul", "ago", "sept", "oct", "nov",
        "dic"]
      narrow := ["E", "F", "M", "A", "M", "J", "J", "A", "S", "O", "N", "D"] }
  monthsAlone :=
    { wide := ["enero", "febrero", "marzo", "abril", "mayo", "junio", "julio", "agosto",
        "septiembre", "octubre", "noviembre", "diciembre"]
      abbreviated := ["ene", "feb", "mar", "abr", "may", "jun", "jul", "ago", "sept", "oct", "nov",
        "dic"]
      narrow := ["E", "F", "M", "A", "M", "J", "J", "A", "S", "O", "N", "D"] }
  weekdays :=
    { wide := ["lunes", "martes", "miércoles", "jueves", "viernes", "sábado", "domingo"]
      abbreviated := ["lun", "mar", "mié", "jue", "vie", "sáb", "dom"]
      narrow := ["L", "M", "X", "J", "V", "S", "D"]
      short := ["LU", "MA", "MI", "JU", "VI", "SA", "DO"] }
  weekdaysAlone :=
    { wide := ["lunes", "martes", "miércoles", "jueves", "viernes", "sábado", "domingo"]
      abbreviated := ["lun", "mar", "mié", "jue", "vie", "sáb", "dom"]
      narrow := ["L", "M", "X", "J", "V", "S", "D"]
      short := ["LU", "MA", "MI", "JU", "VI", "SA", "DO"] }
  quarters :=
    ⟨["1.er trimestre", "2.º trimestre", "3.er trimestre", "4.º trimestre"],
      ["T1", "T2", "T3", "T4"], ["1", "2", "3", "4"], ["T1", "T2", "T3", "T4"]⟩
  halves := .same ["a.\u202fm.", "p.\u202fm."]
  dayParts :=
    [part 12 12 "del mediodía" "mediodía",
      part 0 6 "de la madrugada" "madrugada",
      part 6 12 "de la mañana" "mañana",
      part 12 20 "de la tarde" "tarde",
      part 20 24 "de la noche" "noche"]
  offsetLead := "GMT"
  universalTime := "tiempo universal coordinado"
  unknownRegion := "Región desconocida"
  regionTime := ("hora de ", "")

/-- What stands for a name in a language without names of its own. -/
def neutral : LocaleNames where
  era := .same ["CE"]
  months := ⟨["M01", "M02", "M03", "M04", "M05", "M06", "M07", "M08", "M09", "M10", "M11", "M12"],
    ["M01", "M02", "M03", "M04", "M05", "M06", "M07", "M08", "M09", "M10", "M11", "M12"],
    ["1", "2", "3", "4", "5", "6", "7", "8", "9", "10", "11", "12"], []⟩
  monthsAlone :=
    ⟨["M01", "M02", "M03", "M04", "M05", "M06", "M07", "M08", "M09", "M10", "M11", "M12"],
      ["M01", "M02", "M03", "M04", "M05", "M06", "M07", "M08", "M09", "M10", "M11", "M12"],
      ["1", "2", "3", "4", "5", "6", "7", "8", "9", "10", "11", "12"], []⟩
  weekdays :=
    { wide := ["Mon", "Tue", "Wed", "Thu", "Fri", "Sat", "Sun"]
      abbreviated := ["Mon", "Tue", "Wed", "Thu", "Fri", "Sat", "Sun"]
      narrow := ["M", "T", "W", "T", "F", "S", "S"] }
  weekdaysAlone :=
    { wide := ["Mon", "Tue", "Wed", "Thu", "Fri", "Sat", "Sun"]
      abbreviated := ["Mon", "Tue", "Wed", "Thu", "Fri", "Sat", "Sun"]
      narrow := ["M", "T", "W", "T", "F", "S", "S"] }
  quarters :=
    ⟨["Q1", "Q2", "Q3", "Q4"], ["Q1", "Q2", "Q3", "Q4"], ["1", "2", "3", "4"],
      ["Q1", "Q2", "Q3", "Q4"]⟩
  halves := .same ["AM", "PM"]
  dayParts := []
  offsetLead := "GMT"
  universalTime := "UTC"
  unknownRegion := "ZZ"
  regionTime := ("", "")

end LocaleNames

end BraceTemplate.Calendar
