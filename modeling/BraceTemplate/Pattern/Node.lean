import BraceTemplate.Pattern.CharSet

/-!
# BraceTemplate.Pattern.Node

Patterns as trees, and the way a group is named in them.
-/

namespace BraceTemplate.Pattern

inductive GroupKey where
  | number (n : Nat)
  | name (t : Text)
  deriving DecidableEq, Repr

inductive Anchor where
  | textStart
  | textEnd
  /-- The end of the text, or the place before a line feed that ends it. -/
  | lastLineEnd
  | lineStart
  | lineEnd
  | wordBoundary
  | notWordBoundary
  | wordStart
  | wordEnd
  /-- Where the search began. -/
  | searchStart
  deriving DecidableEq, Repr

/-- In which order the counts of a repetition are tried; a possessive one tries only the first. -/
inductive Greed where
  | greedy
  | lazy
  | possessive
  deriving DecidableEq, Repr

inductive Node where
  | empty
  | fail
  | one (set : CharSet) (rule : CaseRule)
  | seq (a b : Node)
  | alt (a b : Node)
  | repeated (body : Node) (least : Nat) (most : Option Nat) (greed : Greed)
  | group (index : Nat) (body : Node)
  | backreference (key : GroupKey) (rule : CaseRule)
  | anchor (a : Anchor) (ascii : Bool)
  | look (behind positive : Bool) (body : Node)
  | atomic (body : Node)
  | ifGroup (key : GroupKey) (yes no : Node)
  | ifLook (behind positive : Bool) (condition yes no : Node)
  /-- A group matched again at this place. -/
  | call (key : GroupKey)
  /-- Moves the start of the whole match to this place. -/
  | keep

namespace Node

def ofSequence : List Node → Node
  | [] => empty
  | [n] => n
  | n :: ns => seq n (ofSequence ns)

def ofAlternatives : List Node → Node
  | [] => empty
  | [n] => n
  | n :: ns => alt n (ofAlternatives ns)

/-- Whether a tree stands for nothing at all. -/
def isEmpty : Node → Bool
  | empty => true
  | seq a b => a.isEmpty && b.isEmpty
  | _ => false

/-- The body of the first group with an index. -/
def findGroup? (index : Nat) : Node → Option Node
  | seq a b => (a.findGroup? index).or (b.findGroup? index)
  | alt a b => (a.findGroup? index).or (b.findGroup? index)
  | repeated body _ _ _ => body.findGroup? index
  | group i body => if i = index then some (group i body) else body.findGroup? index
  | look _ _ body => body.findGroup? index
  | atomic body => body.findGroup? index
  | ifGroup _ yes no => (yes.findGroup? index).or (no.findGroup? index)
  | ifLook _ _ condition yes no =>
    ((condition.findGroup? index).or (yes.findGroup? index)).or (no.findGroup? index)
  | _ => none

/-- The groups whose captures a tree looks at. -/
def watched : Node → List GroupKey
  | seq a b => a.watched ++ b.watched
  | alt a b => a.watched ++ b.watched
  | repeated body _ _ _ => body.watched
  | group _ body => body.watched
  | backreference key _ => [key]
  | look _ _ body => body.watched
  | atomic body => body.watched
  | ifGroup key yes no => key :: (yes.watched ++ no.watched)
  | ifLook _ _ condition yes no => condition.watched ++ (yes.watched ++ no.watched)
  | _ => []

end Node

end BraceTemplate.Pattern
