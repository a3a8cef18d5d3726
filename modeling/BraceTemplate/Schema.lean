import BraceTemplate.Calendar.Locale
import BraceTemplate.Calendar.Zone
import BraceTemplate.Codec.Utf8
import BraceTemplate.Settings
import BraceTemplate.Value

/-!
# BraceTemplate.Schema

Settings and jobs as they are read from untyped mappings. Every field is looked at, and all that is
wrong is reported in the order of the fields. Keys that name no field are passed over.
-/

namespace BraceTemplate

inductive FieldCause where
  | missing
  | notText
  | notList
  /-- A text that is none of the listed ones. -/
  | notListed
  | notMapping
  | rejected (message : Text)
  deriving DecidableEq, Repr

structure FieldError where
  path : List Text
  cause : FieldCause
  deriving DecidableEq, Repr

/-- A template with the parameter sets to expand it for. -/
structure Job where
  template : Text
  parameters : List (List Value)
  settings : Settings

namespace Schema

abbrev Entries := List (Value × Value)

/-- The value of the last entry with a text as its key. -/
def field? (name : String) (entries : Entries) : Option Value :=
  (entries.reverse.find? fun e =>
    match e.1 with
    | .text k => k = name.toText
    | _ => false).map (·.2)

/-- A text, or the text that octets encode. -/
def asText? : Value → Option Text
  | .text t => some t
  | .octets bytes => Codec.Utf8.decode? bytes
  | _ => none

def unknownLocaleMessage (t : Text) : Text :=
  "Unknown locale '".toText ++ t ++
    "'. Suggestion: Use an identifier such as 'en_US'.".toText

def unknownZoneMessage (t : Text) : Text :=
  "Unknown time zone '".toText ++ t ++
    "'. Suggestion: Use an IANA zone name such as 'UTC' or 'Europe/Paris'.".toText

/-- Reads a field that may be left out; without a value it has the default. -/
def readField {α : Type} (name : String) (default : α) (read : Value → Except FieldCause α)
    (entries : Entries) : Except FieldError α :=
  match field? name entries with
  | none => .ok default
  | some v =>
    match read v with
    | .ok a => .ok a
    | .error cause => .error ⟨[name.toText], cause⟩

def readLocale (v : Value) : Except FieldCause Text :=
  match asText? v with
  | none => .error .notText
  | some t =>
    match Calendar.Locale.ofText? t with
    | some _ => .ok t
    | none => .error (.rejected (unknownLocaleMessage t))

/-- A zone name; no value and the empty text are no zone. -/
def readZone (v : Value) : Except FieldCause (Option Text) :=
  match v with
  | .none => .ok none
  | v =>
    match asText? v with
    | none => .error .notText
    | some [] => .ok none
    | some t =>
      match Calendar.Zone.find? t with
      | some _ => .ok (some t)
      | none => .error (.rejected (unknownZoneMessage t))

def readLogLevel (v : Value) : Except FieldCause LogLevel :=
  match v with
  | .text t =>
    match LogLevel.ofName? t with
    | some l => .ok l
    | none => .error .notListed
  | _ => .error .notListed

def errorsOf {ε α : Type} : Except ε α → List ε
  | .ok _ => []
  | .error e => [e]

def readSettings (entries : Entries) : Except (List FieldError) Settings :=
  let locale := readField "locale" ({} : Settings).locale readLocale entries
  let zone := readField "default_timezone" ({} : Settings).defaultZone readZone entries
  let level := readField "log_level" ({} : Settings).logLevel readLogLevel entries
  match locale, zone, level with
  | .ok locale, .ok zone, .ok level => .ok ⟨locale, zone, level⟩
  | locale, zone, level => .error (errorsOf locale ++ errorsOf zone ++ errorsOf level)

def readTemplate (entries : Entries) : Except FieldError Text :=
  match field? "template" entries with
  | none => .error ⟨["template".toText], .missing⟩
  | some v =>
    match asText? v with
    | some t => .ok t
    | none => .error ⟨["template".toText], .notText⟩

/-- Parameter sets; an entry that is no list is a set of one parameter. -/
def readParameters (v : Value) : Except FieldCause (List (List Value)) :=
  match v with
  | .none => .ok []
  | .list rows =>
    .ok (rows.map fun row =>
      match row with
      | .list items => items
      | v => [v])
  | _ => .error .notList

/-- The settings of a job, with the field's name before the names of its fields. -/
def readJobSettings (entries : Entries) : Except (List FieldError) Settings :=
  match field? "settings" entries with
  | none => .ok {}
  | some (.dict inner) =>
    match readSettings inner with
    | .ok s => .ok s
    | .error es => .error (es.map fun e => { e with path := "settings".toText :: e.path })
  | some _ => .error [⟨["settings".toText], .notMapping⟩]

def readJob (entries : Entries) : Except (List FieldError) Job :=
  let template := readTemplate entries
  let parameters := readField "parameters" [] readParameters entries
  let settings := readJobSettings entries
  match template, parameters, settings with
  | .ok template, .ok parameters, .ok settings => .ok ⟨template, parameters, settings⟩
  | template, parameters, settings =>
    .error (errorsOf template ++ errorsOf parameters ++ (errorsOf settings).flatten)

def isText : Value → Bool
  | .text _ => true
  | _ => false

/-- Whether every key is a text, as named fields require. -/
def hasTextKeys (entries : Entries) : Bool := entries.all fun e => isText e.1

end Schema

end BraceTemplate
