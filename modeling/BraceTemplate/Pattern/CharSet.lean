import BraceTemplate.Pattern.PropertyTables
import BraceTemplate.Text.Case

/-!
# BraceTemplate.Pattern.CharSet

Sets of characters as a pattern writes them: single characters, ranges, properties, unions and
complements, with or without regard to case.
-/

namespace BraceTemplate.Pattern

inductive Property where
  /-- One of the listed general categories, by number. -/
  | category (numbers : List Nat)
  | script (ranges : Text.RangeSet)
  | alphabetic
  | uppercase
  | lowercase
  | space
  | word
  | blank
  | alphanumeric
  | hexDigit
  | ascii
  | graph
  | print
  | any

/-- Starts of the runs of one general category, with its number. -/
def categoryTable : Array (Nat × Nat) :=
  let rec go (start : Nat) (out : Array (Nat × Nat)) : List Int → Array (Nat × Nat)
    | width :: number :: rest => go (start + width.toNat) (out.push (start, number.toNat)) rest
    | _ => out
  go 0 #[] (Text.readNumbers categoryRuns.toList)

/-- The number of a code point's general category. -/
def category (n : Nat) : Nat :=
  match Text.lastAtMost categoryTable.size (fun i => (categoryTable.getD i (0, 0)).1) n with
  | some i => (categoryTable.getD i (0, 0)).2
  | none => 29

def isSpace (n : Nat) : Bool :=
  (decide (9 ≤ n) && decide (n ≤ 13)) || n == 32 || n == 0x85 || n == 0xa0 || n == 0x1680 ||
    (decide (0x2000 ≤ n) && decide (n ≤ 0x200a)) || n == 0x2028 || n == 0x2029 || n == 0x202f ||
    n == 0x205f || n == 0x3000

namespace Property

def holds (p : Property) (c : CodePoint) : Bool :=
  let n := c.toNat
  match p with
  | category numbers => numbers.contains (Pattern.category n)
  | script ranges => ranges.contains n
  | alphabetic => alphabeticTable.contains n
  | uppercase => uppercaseTable.contains n
  | lowercase => lowercaseTable.contains n
  | space => isSpace n
  | word => wordTable.contains n
  | blank => n == 9 || Pattern.category n == 22
  | alphanumeric => alphabeticTable.contains n || Pattern.category n == 8
  | hexDigit =>
    (decide (48 ≤ n) && decide (n ≤ 57)) || (decide (65 ≤ n) && decide (n ≤ 70)) ||
      (decide (97 ≤ n) && decide (n ≤ 102))
  | ascii => decide (n < 128)
  | graph => !isSpace n && !([25, 27, 29].contains (Pattern.category n))
  | print =>
    ((!isSpace n && !([25, 27, 29].contains (Pattern.category n))) || Pattern.category n == 22) &&
      Pattern.category n != 25
  | any => true

/-- A name in capitals without blanks, hyphens and low lines. -/
def standardName (t : Text) : String :=
  Text.string ((t.filter fun c => !" _-".toText.contains c).map CodePoint.toUpper)

def categoryGroup? (name : String) : Option (List Nat) :=
  match name with
  | "C" | "OTHER" => some [25, 26, 27, 28, 29]
  | "L" | "LETTER" => some [0, 1, 2, 3, 4]
  | "LC" | "L&" | "CASEDLETTER" => some [0, 1, 2]
  | "M" | "MARK" | "COMBININGMARK" => some [5, 6, 7]
  | "N" | "NUMBER" => some [8, 9, 10]
  | "P" | "PUNCTUATION" | "PUNCT" => some [11, 12, 13, 14, 15, 16, 17]
  | "S" | "SYMBOL" => some [18, 19, 20, 21]
  | "Z" | "SEPARATOR" => some [22, 23, 24]
  | "ASSIGNED" => some (List.range 29)
  | _ => none

def longCategoryNames : List (String × Nat) :=
  [("UPPERCASELETTER", 0), ("LOWERCASELETTER", 1), ("TITLECASELETTER", 2), ("MODIFIERLETTER", 3),
   ("OTHERLETTER", 4), ("NONSPACINGMARK", 5), ("SPACINGMARK", 6), ("ENCLOSINGMARK", 7),
   ("DECIMALNUMBER", 8), ("DIGIT", 8), ("LETTERNUMBER", 9), ("OTHERNUMBER", 10),
   ("CONNECTORPUNCTUATION", 11), ("DASHPUNCTUATION", 12), ("OPENPUNCTUATION", 13),
   ("CLOSEPUNCTUATION", 14), ("INITIALPUNCTUATION", 15), ("FINALPUNCTUATION", 16),
   ("OTHERPUNCTUATION", 17), ("MATHSYMBOL", 18), ("CURRENCYSYMBOL", 19), ("MODIFIERSYMBOL", 20),
   ("OTHERSYMBOL", 21), ("SPACESEPARATOR", 22), ("LINESEPARATOR", 23),
   ("PARAGRAPHSEPARATOR", 24), ("CONTROL", 25), ("CNTRL", 25), ("FORMAT", 26), ("SURROGATE", 27),
   ("PRIVATEUSE", 28), ("UNASSIGNED", 29)]

def ofCategoryName? (name : String) : Option Property :=
  match categoryGroup? name with
  | some numbers => some (category numbers)
  | none =>
    match categoryNames.findIdx? (· == name), longCategoryNames.find? (·.1 == name) with
    | some i, _ => some (category [i])
    | none, some e => some (category [e.2])
    | none, none => none

/-- A script by its name or short name. -/
def ofScriptName? (name : String) : Option Property :=
  let rows := Text.splitOn '\n' scriptRanges.toText
  let row := rows.find? fun r =>
    match Text.splitOn ' ' r with
    | long :: short :: _ => long = name.toText || (short = name.toText && name != "-")
    | _ => false
  row.map fun r =>
    script (Text.RangeSet.ofText
      (Text.string (Text.join [' '] ((Text.splitOn ' ' r).drop 2))))

def ofBinaryName? (name : String) : Option Property :=
  match name with
  | "ALPHABETIC" | "ALPHA" => some alphabetic
  | "UPPERCASE" | "UPPER" => some uppercase
  | "LOWERCASE" | "LOWER" => some lowercase
  | "WHITESPACE" | "SPACE" | "WSPACE" => some space
  | "WORD" => some word
  | "BLANK" | "HORIZSPACE" => some blank
  | "ALNUM" | "ALPHANUMERIC" => some alphanumeric
  | "XDIGIT" | "HEXDIGIT" | "HEX" | "ASCIIHEXDIGIT" | "AHEX" => some hexDigit
  | "ASCII" => some ascii
  | "GRAPH" => some graph
  | "PRINT" => some print
  | "ANY" => some any
  | _ => none

/-- The property of an unqualified name. -/
def ofName? (name : String) : Option Property :=
  let dropIs := String.ofList (name.toList.drop 2)
  let isName := name.startsWith "IS"
  [ofCategoryName? name, ofScriptName? name, ofBinaryName? name,
    if isName then ofBinaryName? dropIs else none,
    if isName then ofScriptName? dropIs else none].findSome? id

/-- The property of a value behind a property's name. -/
def ofQualifiedName? (property value : String) : Option Property :=
  match property with
  | "GENERALCATEGORY" | "GC" => ofCategoryName? value
  | "SCRIPT" | "SC" => ofScriptName? value
  | _ => none

end Property

inductive CharSet where
  | char (c : CodePoint)
  | range (low high : CodePoint)
  | property (p : Property)
  | union (items : List CharSet)
  | complement (s : CharSet)

/-- Which characters a pattern takes for the same. -/
inductive CaseRule where
  | exact
  /-- The two cases of an ASCII letter are the same. -/
  | anyAscii
  | any
  deriving DecidableEq, Repr

/-- Every character that differs from the given one in case only, and that one. -/
def caseVariants (c : CodePoint) : List CodePoint :=
  let single : Text → List CodePoint := fun t => match t with | [d] => [d] | _ => []
  let listed := match caseClasses.find? (·.contains c.toNat) with
    | some cls => cls.map CodePoint.ofNat
    | none => []
  c :: (single (Text.upperChar c) ++ single (Text.lowerChar c) ++ listed)

/-- The characters that are the same as the given one under a rule. -/
def CaseRule.variants (rule : CaseRule) (c : CodePoint) : List CodePoint :=
  match rule with
  | exact => [c]
  | anyAscii => [c.toLower, c.toUpper]
  | any => caseVariants c

namespace CharSet

mutual
def contains : CharSet → CodePoint → Bool
  | char a, c => a == c
  | range low high, c => decide (low ≤ c) && decide (c ≤ high)
  | property p, c => p.holds c
  | union items, c => containsAny items c
  | complement s, c => !s.contains c

def containsAny : List CharSet → CodePoint → Bool
  | [], _ => false
  | s :: ss, c => s.contains c || containsAny ss c
end

/-- Membership of one of a character's variants; a complement is taken last. -/
def containsVariant (s : CharSet) (rule : CaseRule) (c : CodePoint) : Bool :=
  match s with
  | complement s => !(rule.variants c).any s.contains
  | s => (rule.variants c).any s.contains

end CharSet

end BraceTemplate.Pattern
