import BraceTemplate.Text.CaseTables
import BraceTemplate.Text.Classes

/-!
# BraceTemplate.Text.Case

Upper and lower case of whole texts. A character may become several, and a capital sigma at the
end of a word becomes a final sigma.
-/

namespace BraceTemplate.Text

def upperChar (c : CodePoint) : Text :=
  if c.toNat < 128 then [c.toUpper] else (upperTable.apply c.toNat).map CodePoint.ofNat

def lowerChar (c : CodePoint) : Text :=
  if c.toNat < 128 then [c.toLower] else (lowerTable.apply c.toNat).map CodePoint.ofNat

def isCaseIgnorable (c : CodePoint) : Bool :=
  if c.toNat < 128 then c = '\'' || c = '.' || c = ':' || c = '^' || c = '`'
  else caseIgnorableTable.contains c.toNat

def isCased (c : CodePoint) : Bool :=
  if c.toNat < 128 then isAsciiLetter c else casedTable.contains c.toNat

/-- Whether the nearest character that is not skipped over is cased. -/
def startsCased (t : Text) : Bool :=
  match t.dropWhile isCaseIgnorable with
  | [] => false
  | c :: _ => isCased c

def capitalSigma : CodePoint := CodePoint.ofNat 0x3a3

def smallSigma : CodePoint := CodePoint.ofNat 0x3c3

def finalSigma : CodePoint := CodePoint.ofNat 0x3c2

def upper (t : Text) : Text := t.flatMap upperChar

/-- Lower case of a text, given what stands before it, nearest first. -/
def lowerAfter (before : Text) : Text → Text
  | [] => []
  | c :: t =>
    (if c = capitalSigma then
      [if startsCased before && !startsCased t then finalSigma else smallSigma]
    else lowerChar c) ++ lowerAfter (c :: before) t

def lower (t : Text) : Text := lowerAfter [] t

/-- Whether a character, in any case, is the given lower case ASCII letter: the dotted and the
dotless i count as i, the long s as s and the kelvin sign as k. -/
def isLetterAnyCase (letter c : CodePoint) : Bool :=
  c.toLower = letter ||
    (letter = 'i' && (c = CodePoint.ofNat 0x130 || c = CodePoint.ofNat 0x131)) ||
    (letter = 's' && c = CodePoint.ofNat 0x17f) ||
    (letter = 'k' && c = CodePoint.ofNat 0x212a)

end BraceTemplate.Text
