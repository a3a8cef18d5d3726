import BraceTemplate.Console.EmojiTable
import BraceTemplate.Console.Line
import BraceTemplate.Text.Case

/-!
# BraceTemplate.Console.Markup

Text with tags for styles in square brackets and names of emoji between colons. Styles are not
shown, so that tags only vanish; a backslash before a tag makes it text.
-/

namespace BraceTemplate.Console

/-! ## Emoji -/

/-- Whether a name is in a row, and the emoji of the row. -/
def emojiOfRow? (name : Text) (row : Text) : Option Text :=
  match (Text.splitOn ' ' (row.map fun c => if c = .char '\n' then .char ' ' else c)).filter
    (!·.isEmpty) with
  | emoji :: names => if names.contains name then some emoji else none
  | [] => none

def emoji? (name : Text) : Option Text :=
  (Text.splitOn ';' emojiRows.toText).findSome? (emojiOfRow? name)

/-- What an ending of a name asks for: the form as text or the form in colour. -/
def variants : List (Text × CodePoint) :=
  [("-emoji".toText, CodePoint.ofNat 0xfe0f), ("-text".toText, CodePoint.ofNat 0xfe0e)]

/-- A name without its ending, and what the ending asks for. -/
def splitVariant (name : Text) : Text × Text :=
  let found := variants.findSome? fun (v : Text × CodePoint) =>
    (Text.after? v.1.reverse name.reverse).map fun rest => (rest.reverse, [v.2])
  found.getD (name, [])

/-- What stands for a name between colons. -/
def emojiText (name : Text) : Text :=
  let split := splitVariant name
  ((emoji? (Text.lower split.1)).map (· ++ split.2)).getD (.char ':' :: name ++ [.char ':'])

/-- A text with emoji in place of their names. -/
def replaceEmoji : Nat → Text → Text
  | 0, t => t
  | fuel + 1, t =>
    match t with
    | [] => []
    | c :: rest =>
      if c = ':' then
        let name := rest.takeWhile fun d => d ≠ .char ':' && !Text.isBlank d
        match rest.drop name.length with
        | ':' :: behind => emojiText name ++ replaceEmoji fuel behind
        | _ => c :: replaceEmoji fuel rest
      else c :: replaceEmoji fuel rest

/-- A text without tags as it is printed. -/
def printPlain (t : Text) : Text := print (replaceEmoji (t.length + 1) t)

/-! ## Tags -/

def isTagStart (c : CodePoint) : Bool :=
  (decide ('a' ≤ c) && decide (c ≤ 'z')) || c = '#' || c = '/' || c = '@'

/-- The content of a tag whose opening bracket has been read, and the rest. -/
def readTag? : Text → Option (Text × Text)
  | [] => none
  | c :: t =>
    if isTagStart c then
      let body := t.takeWhile fun d => d ≠ .char '[' && d ≠ .char ']'
      match t.drop body.length with
      | ']' :: rest => some (c :: body, rest)
      | _ => none
    else none

inductive MarkupPiece where
  | plain (t : Text)
  | tag (content : Text)
  deriving DecidableEq, Repr

/-- A text cut at its tags; plain text comes last character first until the next tag. -/
def markupPieces (plain : Text) : Nat → Text → List MarkupPiece
  | 0, _ => [.plain plain.reverse]
  | fuel + 1, t =>
    let slashes := t.takeWhile (· = .char '\\')
    match t.drop slashes.length with
    | [] => [.plain (slashes ++ plain).reverse]
    | c :: rest =>
      let tag := if c = '[' then readTag? rest else none
      match tag with
      | none => markupPieces (c :: slashes ++ plain) fuel rest
      | some (content, behind) =>
        let halves := List.replicate (slashes.length / 2) (.char '\\')
        .plain plain.reverse :: .plain halves ::
          (if slashes.length % 2 = 1 then .plain (.char '[' :: content ++ [.char ']'])
            else .tag content) ::
          markupPieces [] fuel behind

/-- Text in which no tag and no backslash is taken for markup. -/
def escapeMarkup (t : Text) : Text :=
  let escaped := escapeFrom (t.length + 1) t
  let slashes := (escaped.reverse.takeWhile (· = .char '\\')).length
  if slashes = 1 then escaped ++ [.char '\\'] else escaped
where
  escapeFrom : Nat → Text → Text
    | 0, t => t
    | fuel + 1, t =>
      let slashes := t.takeWhile (· = .char '\\')
      match t.drop slashes.length with
      | [] => slashes
      | c :: rest =>
        let tag := if c = '[' then readTag? rest else none
        match tag with
        | none => slashes ++ c :: escapeFrom fuel rest
        | some (content, behind) =>
          slashes ++ slashes ++ .char '\\' :: .char '[' :: content ++
            .char ']' :: escapeFrom fuel behind

/-- Without the backslashes before opening brackets. -/
def unescapeBrackets : Text → Text
  | [] => []
  | '\\' :: '[' :: t => '[' :: unescapeBrackets t
  | c :: t => c :: unescapeBrackets t

def plainText (t : Text) : Text :=
  let t := unescapeBrackets t
  replaceEmoji (t.length + 1) t

def tagName (content : Text) : Text :=
  Text.lower (Text.strip Text.isBlank (content.takeWhile (· ≠ '=')))

/-- Takes the last tag with a name out of the open ones. -/
def closeTag? (name : Text) : List Text → Option (List Text)
  | [] => none
  | t :: ts =>
    if name.isEmpty || t = name then some ts else (closeTag? name ts).map (t :: ·)

/-- The text of pieces, given the open tags, the innermost first; none if a tag closes nothing. -/
def renderPieces? (opened : List Text) : List MarkupPiece → Option Text
  | [] => some []
  | .plain t :: ps => (renderPieces? opened ps).map (plainText t ++ ·)
  | .tag content :: ps =>
    match content with
    | '/' :: name =>
      match closeTag? (tagName name) opened with
      | some opened => renderPieces? opened ps
      | none => none
    | content => renderPieces? (tagName content :: opened) ps

/-- A text with markup as it is printed. -/
def printMarkup? (t : Text) : Option Text :=
  (renderPieces? [] (markupPieces [] (t.length + 1) t)).map print

end BraceTemplate.Console
