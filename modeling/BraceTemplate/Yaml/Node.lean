import BraceTemplate.Yaml.Tag
import BraceTemplate.Yaml.Token

/-!
# BraceTemplate.Yaml.Node

The tree of a document: scalars, sequences and mappings with their kinds, and aliases replaced by
what their anchors name.
-/

namespace BraceTemplate.Yaml

inductive Node where
  | scalar (tag : Tag) (text : Text)
  | sequence (tag : Tag) (items : List Node)
  | mapping (tag : Tag) (entries : List (Node × Node))
  /-- An alias of a collection that it stands in. -/
  | cycle
  deriving Inhabited

namespace Node

/-- A value that is left out. -/
def empty : Node := scalar .null []

/-- Named nodes, none of which is complete as long as it is being read. -/
abbrev Anchors := List (Text × Option Node)

structure Rest where
  tokens : List Token
  anchors : Anchors

/-- What may stand before a node's content. -/
structure Properties where
  anchor : Option Text
  tag : Option WrittenTag

def readProperties : List Token → Properties × List Token
  | .anchor a :: .tag t :: ts => (⟨some a, some t⟩, ts)
  | .anchor a :: ts => (⟨some a, none⟩, ts)
  | .tag t :: .anchor a :: ts => (⟨some a, some t⟩, ts)
  | .tag t :: ts => (⟨none, some t⟩, ts)
  | ts => (⟨none, none⟩, ts)

/-- The whole tag. A mark alone is no tag. -/
def wholeTag (handles : List (Text × Text)) : Option WrittenTag → Except Error (Option Text)
  | none => .ok none
  | some ⟨none, suffix⟩ => .ok (some suffix)
  | some ⟨some handle, suffix⟩ =>
    match handles.lookup handle with
    | some start => .ok (some (start ++ suffix))
    | none => .error .malformed

/-- The kind of a collection. -/
def collectionTag (kind : Tag) : Option Text → Tag
  | none => kind
  | some t => if t = [.char '!'] then kind else Tag.ofText t

/-- The kind of a scalar. A plain one, or one with a mark alone, has it by its form. -/
def scalarTag (plain : Bool) (text : Text) : Option Text → Tag
  | none => if plain then Tag.ofPlain text else .text
  | some t => if t = [.char '!'] then Tag.ofPlain text else Tag.ofText t

def isAnyToken (stops : List Token) (ts : List Token) : Bool :=
  match ts with
  | [] => false
  | t :: _ => stops.contains t

/-- The tokens behind a comma. -/
def behindComma (ts : List Token) : Except Error (List Token) :=
  match ts with
  | .flowEntry :: ts => .ok ts
  | _ => .error .malformed

/-- Notes a name, which no other node may have. -/
def noteAnchor (name : Option Text) (anchors : Anchors) : Except Error Anchors :=
  match name with
  | none => .ok anchors
  | some a => if (anchors.lookup a).isSome then .error .malformed else .ok ((a, none) :: anchors)

mutual

/-- Reads a node. In a block it may be a block itself, and behind a key a sequence may stand
without an indentation of its own. -/
def read (handles : List (Text × Text)) (inBlock afterKey : Bool) :
    Nat → Rest → Except Error (Node × Rest)
  | 0, _ => .error .malformed
  | fuel + 1, r =>
    match r.tokens with
    | .aliasOf name :: ts =>
      match r.anchors.lookup name with
      | none => .error .malformed
      | some none => .ok (cycle, { r with tokens := ts })
      | some (some n) => .ok (n, { r with tokens := ts })
    | ts => do
      let (properties, ts) := readProperties ts
      let tag ← wholeTag handles properties.tag
      let anchors ← noteAnchor properties.anchor r.anchors
      let bare := properties.anchor.isNone && properties.tag.isNone
      let (n, r) ← readContent handles inBlock afterKey tag bare fuel ⟨ts, anchors⟩
      match properties.anchor with
      | none => .ok (n, r)
      | some a => .ok (n, { r with anchors := (a, some n) :: r.anchors })

/-- Reads a node's content. Only behind properties it may be left out. -/
def readContent (handles : List (Text × Text)) (inBlock afterKey : Bool) (tag : Option Text)
    (bare : Bool) : Nat → Rest → Except Error (Node × Rest)
  | 0, _ => .error .malformed
  | fuel + 1, ⟨ts, anchors⟩ =>
    match ts with
    | .scalar text plain :: ts => .ok (scalar (scalarTag plain text tag) text, ⟨ts, anchors⟩)
    | .flowSequenceStart :: ts => do
      let (items, r) ← readFlowItems handles true fuel ⟨ts, anchors⟩
      .ok (sequence (collectionTag .sequence tag) items, r)
    | .flowMappingStart :: ts => do
      let (entries, r) ← readFlowEntries handles true fuel ⟨ts, anchors⟩
      .ok (mapping (collectionTag .mapping tag) entries, r)
    | ts =>
      if afterKey && isAnyToken [.blockEntry] ts then do
        let (items, r) ← readIndentless handles fuel ⟨ts, anchors⟩
        .ok (sequence (collectionTag .sequence tag) items, r)
      else if inBlock && isAnyToken [.blockSequenceStart] ts then do
        let (items, r) ← readBlockItems handles fuel ⟨ts.drop 1, anchors⟩
        .ok (sequence (collectionTag .sequence tag) items, r)
      else if inBlock && isAnyToken [.blockMappingStart] ts then do
        let (entries, r) ← readBlockEntries handles fuel ⟨ts.drop 1, anchors⟩
        .ok (mapping (collectionTag .mapping tag) entries, r)
      else if bare then .error .malformed
      else .ok (scalar (scalarTag true [] tag) [], ⟨ts, anchors⟩)

/-- Reads a node, or nothing before a token that ends it. -/
def readUnless (handles : List (Text × Text)) (stops : List Token) (inBlock afterKey : Bool) :
    Nat → Rest → Except Error (Node × Rest)
  | 0, _ => .error .malformed
  | fuel + 1, r =>
    if isAnyToken stops r.tokens then .ok (empty, r) else read handles inBlock afterKey fuel r

/-- Reads the value behind a key, or nothing without a colon. -/
def readValue (handles : List (Text × Text)) (stops : List Token) (inBlock : Bool) :
    Nat → Rest → Except Error (Node × Rest)
  | 0, _ => .error .malformed
  | fuel + 1, r =>
    match r.tokens with
    | .value :: ts => readUnless handles stops inBlock inBlock fuel { r with tokens := ts }
    | _ => .ok (empty, r)

def readBlockItems (handles : List (Text × Text)) : Nat → Rest → Except Error (List Node × Rest)
  | 0, _ => .error .malformed
  | fuel + 1, r =>
    match r.tokens with
    | .blockEnd :: ts => .ok ([], { r with tokens := ts })
    | .blockEntry :: ts => do
      let (n, r) ← readUnless handles [.blockEntry, .blockEnd] true false fuel
        { r with tokens := ts }
      let (items, r) ← readBlockItems handles fuel r
      .ok (n :: items, r)
    | _ => .error .malformed

def readIndentless (handles : List (Text × Text)) : Nat → Rest → Except Error (List Node × Rest)
  | 0, _ => .error .malformed
  | fuel + 1, r =>
    match r.tokens with
    | .blockEntry :: ts => do
      let (n, r) ← readUnless handles [.blockEntry, .key, .value, .blockEnd] true false fuel
        { r with tokens := ts }
      let (items, r) ← readIndentless handles fuel r
      .ok (n :: items, r)
    | _ => .ok ([], r)

def readBlockEntries (handles : List (Text × Text)) :
    Nat → Rest → Except Error (List (Node × Node) × Rest)
  | 0, _ => .error .malformed
  | fuel + 1, r =>
    match r.tokens with
    | .blockEnd :: ts => .ok ([], { r with tokens := ts })
    | .key :: ts => do
      let stops : List Token := [.key, .value, .blockEnd]
      let (k, r) ← readUnless handles stops true true fuel { r with tokens := ts }
      let (v, r) ← readValue handles stops true fuel r
      let (entries, r) ← readBlockEntries handles fuel r
      .ok ((k, v) :: entries, r)
    | _ => .error .malformed

/-- Reads the items up to a closing bracket; a key within makes a mapping of one entry. -/
def readFlowItems (handles : List (Text × Text)) (first : Bool) :
    Nat → Rest → Except Error (List Node × Rest)
  | 0, _ => .error .malformed
  | fuel + 1, r =>
    match r.tokens with
    | .flowSequenceEnd :: ts => .ok ([], { r with tokens := ts })
    | ts => do
      let ts ← if first then .ok ts else behindComma ts
      match ts with
      | .flowSequenceEnd :: ts => .ok ([], { r with tokens := ts })
      | .key :: ts => do
        let (k, r) ← readUnless handles [.value, .flowEntry, .flowSequenceEnd] false false fuel
          { r with tokens := ts }
        let (v, r) ← readValue handles [.flowEntry, .flowSequenceEnd] false fuel r
        let (items, r) ← readFlowItems handles false fuel r
        .ok (mapping .mapping [(k, v)] :: items, r)
      | ts => do
        let (n, r) ← read handles false false fuel { r with tokens := ts }
        let (items, r) ← readFlowItems handles false fuel r
        .ok (n :: items, r)

/-- Reads the entries up to a closing brace; a node that is no key is one without a value. -/
def readFlowEntries (handles : List (Text × Text)) (first : Bool) :
    Nat → Rest → Except Error (List (Node × Node) × Rest)
  | 0, _ => .error .malformed
  | fuel + 1, r =>
    match r.tokens with
    | .flowMappingEnd :: ts => .ok ([], { r with tokens := ts })
    | ts => do
      let ts ← if first then .ok ts else behindComma ts
      match ts with
      | .flowMappingEnd :: ts => .ok ([], { r with tokens := ts })
      | .key :: ts => do
        let (k, r) ← readUnless handles [.value, .flowEntry, .flowMappingEnd] false false fuel
          { r with tokens := ts }
        let (v, r) ← readValue handles [.flowEntry, .flowMappingEnd] false fuel r
        let (entries, r) ← readFlowEntries handles false fuel r
        .ok ((k, v) :: entries, r)
      | ts => do
        let (n, r) ← read handles false false fuel { r with tokens := ts }
        let (entries, r) ← readFlowEntries handles false fuel r
        .ok ((n, empty) :: entries, r)

end

/-! ## Documents -/

/-- The handles that need no directive. -/
def defaultHandles : List (Text × Text) := [(['!'], ['!']), (['!', '!'], Tag.space)]

/-- Reads the directives before a document: a version at most once, and each handle at most
once. -/
def readDirectives (hasVersion : Bool) (handles : List (Text × Text)) :
    List Token → Except Error (List (Text × Text) × List Token)
  | .versionDirective major :: ts =>
    if hasVersion || major ≠ 1 then .error .malformed else readDirectives true handles ts
  | .tagDirective handle start :: ts =>
    if (handles.lookup handle).isSome then .error .malformed
    else readDirectives hasVersion ((handle, start) :: handles) ts
  | .otherDirective :: ts => readDirectives hasVersion handles ts
  | ts => .ok (handles, ts)

def isDirective : Token → Bool
  | .versionDirective _ => true
  | .tagDirective _ _ => true
  | .otherDirective => true
  | _ => false

/-- Whether a document has no content. -/
def endsDocument : List Token → Bool
  | [] => true
  | t :: _ => isDirective t || t = .documentStart || t = .documentEnd

/-- The root of the only document of a text, or nothing without a document. -/
def ofTokens? (ts : List Token) : Except Error (Option Node) := do
  let fuel := 4 * ts.length + 8
  let (root, rest) ←
    match ts with
    | [] => .ok (none, [])
    | t :: _ =>
      if isDirective t || t = .documentStart then do
        let (handles, ts) ← readDirectives false [] ts
        match ts with
        | .documentStart :: ts =>
          if endsDocument ts then .ok (some empty, ts)
          else do
            let (n, r) ← read (handles ++ defaultHandles) true false fuel ⟨ts, []⟩
            .ok (some n, r.tokens)
        | _ => .error .malformed
      else do
        let (n, r) ← read defaultHandles true false fuel ⟨ts, []⟩
        .ok (some n, r.tokens)
  if rest.all (· = .documentEnd) then .ok root else .error .malformed

end Node

end BraceTemplate.Yaml
