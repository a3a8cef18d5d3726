import BraceTemplate.Calendar.LocaleNames
import BraceTemplate.Calendar.LocaleTable
import BraceTemplate.Text.Classes

/-!
# BraceTemplate.Calendar.Locale

Locales: a language with the conventions of a territory. An identifier is a language, and after it
a script, a territory and a variant, between low lines and in any case. An identifier that is not
listed stands for the listed one it most likely means.
-/

namespace BraceTemplate.Calendar

structure LocaleId where
  language : Text
  script : Option Text
  territory : Option Text
  variant : Option Text
  deriving DecidableEq, Repr

namespace LocaleId

def isLetters (t : Text) : Bool :=
  !t.isEmpty && t.all fun c =>
    Text.isAsciiLetter c || (128 ≤ c.toNat && Text.isWord c && !Text.isDecimal c)

def titleCase : Text → Text
  | [] => []
  | c :: t => c.toUpper :: t.map CodePoint.toLower

/-- The first part if it has a form. -/
def splitPart (p : Text → Bool) : List Text → Option Text × List Text
  | [] => (none, [])
  | part :: rest => if p part then (some part, rest) else (none, part :: rest)

def isVariant : Text → Bool
  | [] => false
  | c :: t => (t.length = 3 && Text.isDecimal c) || (4 ≤ t.length && isLetters [c])

/-- The parts of a well-formed identifier; what follows an at sign or a point does not count. -/
def parse? (t : Text) : Option LocaleId :=
  let main := (t.takeWhile (· ≠ .char '@')).takeWhile (· ≠ .char '.')
  match Text.splitOn '_' main with
  | [] => none
  | language :: parts =>
    if !isLetters language then none
    else
      let script := splitPart (fun p => p.length = 4 && isLetters p) parts
      let territory := splitPart (fun p =>
        (p.length = 2 && isLetters p) || (p.length = 3 && p.all Text.isDecimal)) script.2
      let variant := splitPart isVariant territory.2
      if variant.2.isEmpty then
        some ⟨language.map CodePoint.toLower, script.1.map titleCase,
          territory.1.map (·.map CodePoint.toUpper), variant.1.map (·.map CodePoint.toUpper)⟩
      else none

/-- What follows the language in the identifier. -/
def tail (id : LocaleId) : Text :=
  Text.join ['_'] ([id.script, id.territory, id.variant].filterMap fun p => p)

end LocaleId

def words (t : Text) : List Text :=
  (Text.splitOn ' ' (t.map fun c => if c = .char '\n' then .char ' ' else c)).filter (!·.isEmpty)

structure LanguageRow where
  language : Text
  likelyScript : Text
  likelyTerritory : Text
  /-- What may follow the language. -/
  tails : List Text

def languageRows : List LanguageRow :=
  (Text.splitOn ';' localeRows.toText).filterMap fun row =>
    match words row with
    | language :: likely :: tails =>
      match Text.splitOn '_' likely with
      | [script, territory] => some ⟨language, script, territory, tails⟩
      | _ => none
    | _ => none

/-- The code behind a code in a list of pairs. -/
def lookUpAlias (code : Text) : List Text → Text
  | old :: new :: rest => if old = code then new else lookUpAlias code rest
  | _ => code

structure Locale where
  id : LocaleId
  deriving DecidableEq, Repr

namespace Locale

def row? (language : Text) : Option LanguageRow := languageRows.find? (·.language = language)

def isListed (id : LocaleId) : Bool :=
  match row? id.language with
  | none => false
  | some row => id.tail.isEmpty || row.tails.contains id.tail

/-- The identifier, or the one with its language and territory only, whichever is listed. -/
def reduced? (id : LocaleId) : Option LocaleId :=
  let short : LocaleId := ⟨id.language, none, id.territory, none⟩
  if isListed id then some id else if isListed short then some short else none

/-- The identifier with the script that its territory makes likely, or the likely territory of a
language alone. -/
def likely? (id : LocaleId) : Option LocaleId :=
  match id.script, id.territory, id.variant with
  | none, none, none =>
    (row? id.language).map fun row => { id with
      script := some row.likelyScript
      territory := some row.likelyTerritory }
  | none, some territory, none =>
    (words regionalScripts.toText).findSome? fun w =>
      match Text.splitOn '_' w with
      | [l, t, s] =>
        if l = id.language ∧ t = territory then some { id with script := some s } else none
      | _ => none
  | _, _, _ => none

/-- The listed identifier that an identifier stands for. -/
def resolve? (id : LocaleId) : Option LocaleId :=
  if isListed id then some id
  else
    let language := lookUpAlias id.language (words languageAliases.toText)
    let aliases := words territoryAliases.toText
    let territory := (id.territory.map fun t => lookUpAlias t aliases).filter (· ≠ "ZZ".toText)
    let script := id.script.filter (· ≠ "Zzzz".toText)
    match (likely? ⟨language, script, territory, id.variant⟩).bind reduced? with
    | some found => some found
    | none =>
      (row? language).bind fun row => reduced? ⟨language, some row.likelyScript, territory, none⟩

def ofText? (t : Text) : Option Locale :=
  ((LocaleId.parse? t).bind resolve?).map fun id => ⟨id⟩

def names (l : Locale) : LocaleNames :=
  match Text.string l.id.language with
  | "en" =>
    match l.id.territory.map Text.string with
    | none => .english
    | some t =>
      if ["US", "AS", "GU", "MP", "PR", "UM", "VI", "PH", "BI"].contains t then .english
      else .worldEnglish
  | "de" => .german
  | "fr" => .french
  | "es" => .spanish
  | _ => .neutral

def isAmong (l : Locale) (territories : String) : Bool :=
  match l.id.territory with
  | none => false
  | some t => (words territories.toText).contains t

/-- The first day of a week, Monday being 0. -/
def firstWeekday (l : Locale) : Nat :=
  if l.isAmong sundayTerritories then 6
  else if l.isAmong saturdayTerritories then 5
  else if l.isAmong fridayTerritories then 4
  else 0

/-- How many days of a week have to lie in a year for it to be the year's first week. -/
def minimalDays (l : Locale) : Nat := if l.isAmong fourDayTerritories then 4 else 1

end Locale

end BraceTemplate.Calendar
