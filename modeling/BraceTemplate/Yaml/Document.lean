import BraceTemplate.Yaml.Node

/-!
# BraceTemplate.Yaml.Document

The value of a document. In a mapping the last entry of a key wins and stands where the first one
stood; entries taken from other mappings come before the mapping's own.
-/

namespace BraceTemplate.Yaml

/-- The number that a key is equal to, as a ratio, if it is finite. -/
def numericKey? : Value → Option (Int × Nat)
  | .bool b => some (if b then 1 else 0, 1)
  | .int i => some (i, 1)
  | .float x =>
    if x.isFinite then
      some (if x.negative then -(x.numerator : Int) else x.numerator, x.denominator)
    else none
  | _ => none

/-- Whether two keys are the same. Numbers of different kinds may be, and so may two moments of
which each has an offset. -/
def isSameKey (a b : Value) : Bool :=
  match numericKey? a, numericKey? b with
  | some (m, d), some (n, e) => m * e = n * d
  | _, _ =>
    match a, b with
    | .none, .none => true
    | .float x, .float y => decide (x = y)
    | .text s, .text t => decide (s = t)
    | .date d, .date e => decide (d = e)
    | .moment m, .moment n =>
      if m.offset.isSome && n.offset.isSome then decide (m.universal = n.universal)
      else decide (m = n)
    | .octets s, .octets t => decide (s = t)
    | _, _ => false

/-- Whether a value may be a key. -/
def isKey : Value → Bool
  | .list _ => false
  | .set _ => false
  | .dict _ => false
  | _ => true

/-- Puts an entry into a mapping. -/
def putEntry (k v : Value) : List (Value × Value) → List (Value × Value)
  | [] => [(k, v)]
  | (l, w) :: es => if isSameKey l k then (l, v) :: es else (l, w) :: putEntry k v es

def putEntries (es : List (Value × Value)) : List (Value × Value) :=
  es.foldl (fun done e => putEntry e.1 e.2 done) []

/-- What entries give to a mapping: its own, and those taken from other mappings. -/
structure Entries where
  merged : List (Value × Value)
  own : List (Value × Value)

def Entries.all (es : Entries) : List (Value × Value) := es.merged ++ es.own

namespace Node

mutual
/-- The text of a scalar; of a mapping, that of its value by default. -/
def scalarText : Node → Except Error Text
  | scalar _ t => .ok t
  | mapping _ entries => defaultText entries
  | _ => .error .malformed

def defaultText : List (Node × Node) → Except Error Text
  | [] => .error .malformed
  | (scalar .default _, v) :: _ => scalarText v
  | _ :: entries => defaultText entries
end

/-- The value of a text of a kind. -/
def valueOfText (tag : Tag) (t : Text) : Except Error Value :=
  match tag with
  | .null => .ok .none
  | .bool => Tag.boolOf t
  | .int => Tag.intOf t
  | .float => Tag.floatOf t
  | .octets => Tag.octetsOf t
  | .timestamp => Tag.timestampOf t
  | .text => .ok (.text t)
  | _ => .error .malformed

mutual
/-- The value of a node. -/
def value : Node → Except Error Value
  | cycle => .error (.fault .endlessValue)
  | scalar tag t => valueOfText tag t
  | sequence tag items =>
    match tag with
    | .sequence =>
      match values items with
      | .ok vs => .ok (.list vs)
      | .error e => .error e
    | .orderedMap => pairs items
    | .pairs => pairs items
    | _ => .error .malformed
  | mapping tag nodes =>
    match tag with
    | .mapping =>
      match entries nodes with
      | .ok es => .ok (.dict (putEntries es.all))
      | .error e => .error e
    | .set =>
      match entries nodes with
      | .ok es => .ok (.set ((putEntries es.all).map (·.1)))
      | .error e => .error e
    | .timestamp =>
      match defaultText nodes with
      | .ok _ => .error (.fault .timestampNotText)
      | .error e => .error e
    | tag =>
      match defaultText nodes with
      | .ok t => valueOfText tag t
      | .error e => .error e

def values : List Node → Except Error (List Value)
  | [] => .ok []
  | n :: ns =>
    match value n with
    | .error e => .error e
    | .ok v =>
      match values ns with
      | .error e => .error e
      | .ok vs => .ok (v :: vs)

/-- A list of pairs, each written as a mapping of one entry. -/
def pairs : List Node → Except Error Value
  | [] => .ok (.list [])
  | mapping _ [(k, v)] :: ns =>
    match value k with
    | .error e => .error e
    | .ok k =>
      match value v with
      | .error e => .error e
      | .ok v =>
        match pairs ns with
        | .ok (.list ps) => .ok (.list (.tuple [k, v] :: ps))
        | .ok v => .ok v
        | .error e => .error e
  | _ :: _ => .error .malformed

/-- The entries of a mapping. -/
def entries : List (Node × Node) → Except Error Entries
  | [] => .ok ⟨[], []⟩
  | (k, v) :: es =>
    match k with
    | scalar .merge _ =>
      match mergedEntries v with
      | .error e => .error e
      | .ok merged =>
        match entries es with
        | .error e => .error e
        | .ok more => .ok { more with merged := merged ++ more.merged }
    | k =>
      match keyValue k with
      | .error e => .error e
      | .ok k =>
        if !isKey k then .error .malformed
        else
          match value v with
          | .error e => .error e
          | .ok v =>
            match entries es with
            | .error e => .error e
            | .ok more => .ok { more with own := (k, v) :: more.own }

/-- The value of a key; the mark of the value by default is a text as a key. -/
def keyValue : Node → Except Error Value
  | scalar .default t => .ok (.text t)
  | k => value k

/-- The entries that a mapping, or each of several, gives to another one; of several the first
comes last. -/
def mergedEntries : Node → Except Error (List (Value × Value))
  | mapping _ nodes =>
    match entries nodes with
    | .ok es => .ok es.all
    | .error e => .error e
  | sequence _ items => mergedAll items
  | _ => .error .malformed

def mergedAll : List Node → Except Error (List (Value × Value))
  | [] => .ok []
  | mapping _ nodes :: ns =>
    match entries nodes with
    | .error e => .error e
    | .ok es =>
      match mergedAll ns with
      | .error e => .error e
      | .ok more => .ok (more ++ es.all)
  | _ :: _ => .error .malformed
end

end Node

/-- The value of the only document of a text; without a document, no value. -/
def read (t : Text) : Except Error Value :=
  match tokens t with
  | .error e => .error e
  | .ok ts =>
    match Node.ofTokens? ts with
    | .error e => .error e
    | .ok none => .ok .none
    | .ok (some n) => n.value

theorem read_of_node {t : Text} {ts : List Token} {n : Node} (htokens : tokens t = .ok ts)
    (hnode : Node.ofTokens? ts = .ok (some n)) : read t = n.value := by
  simp only [read, htokens, hnode]

end BraceTemplate.Yaml
