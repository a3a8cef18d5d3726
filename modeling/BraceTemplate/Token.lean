import BraceTemplate.Body.Basic

/-!
# BraceTemplate.Token

Templates as tokens. Braces around a body are a replacement, `{?}` and `{.}` are markers, and all
else is literal text, also braces around something that is no body. Up to two backslashes before a
replacement belong to it.
-/

namespace BraceTemplate

/-- What the backslashes before a replacement ask for. -/
inductive Escape where
  | plain
  /-- The token's own text, without evaluating it. -/
  | verbatim
  /-- A backslash before the token's value. -/
  | backslashed
  deriving DecidableEq, Repr

namespace Escape

/-- Backslashes that the token takes. -/
def count : Escape → Nat
  | plain => 0
  | verbatim => 1
  | backslashed => 2

/-- A token takes at most two backslashes. -/
def ofRun : Nat → Escape
  | 0 => plain
  | 1 => verbatim
  | _ => backslashed

theorem count_ofRun (n : Nat) : (ofRun n).count = min 2 n := by
  match n with
  | 0 => rfl
  | 1 => rfl
  | n + 2 => simp [ofRun, count]

end Escape

inductive Token where
  | literal (text : Text)
  | blockOpen
  | blockClose
  | replacement (escape : Escape) (body : Body)
  deriving DecidableEq, Repr

namespace Token

/-- A token as it is written. -/
def source : Token → Text
  | literal text => text
  | blockOpen => ['\x7b', '?', '\x7d']
  | blockClose => ['\x7b', '.', '\x7d']
  | replacement escape body =>
    List.replicate escape.count (.char '\\') ++ .char '\x7b' :: body.raw ++ [.char '\x7d']

def isLiteral : Token → Bool
  | literal _ => true
  | _ => false

end Token

/-- The tokens of a template up to a fault, if a body has one. -/
structure Scan where
  tokens : List Token
  fault : Option Fault
  deriving DecidableEq, Repr

namespace Scan

/-- The scan with a token before its first one. -/
def cons (t : Token) (s : Scan) : Scan := { s with tokens := t :: s.tokens }

/-- The scan with literal text before its first token; the text comes last character first. -/
def flush (reversed : Text) (s : Scan) : Scan :=
  if reversed.isEmpty then s else s.cons (.literal reversed.reverse)

/-- Scans on, with the literal text read so far, last character first. -/
def scanFrom (literal : Text) (t : Text) : Scan :=
  match t with
  | [] => flush literal ⟨[], none⟩
  | '\x7b' :: '?' :: '\x7d' :: rest => flush literal ((scanFrom [] rest).cons .blockOpen)
  | '\x7b' :: '.' :: '\x7d' :: rest => flush literal ((scanFrom [] rest).cons .blockClose)
  | c :: rest =>
    if c = '\x7b' then
      match _h : Body.parse rest with
      | .error f => ⟨[], some f⟩
      | .ok none => scanFrom (c :: literal) rest
      | .ok (some (body, rest')) =>
        let escape := Escape.ofRun (literal.takeWhile (· = .char '\\')).length
        flush (literal.drop escape.count)
          ((scanFrom [] rest').cons (.replacement escape body))
    else scanFrom (c :: literal) rest
termination_by t.length
decreasing_by
  · simp only [List.length_cons]
    omega
  · simp only [List.length_cons]
    omega
  · simp only [List.length_cons]
    omega
  · have := Body.length_lt_of_parse _h
    simp only [List.length_cons]
    omega
  · simp only [List.length_cons]
    omega

end Scan

/-- The tokens of a template, from left to right. -/
def scan (template : Text) : Scan := Scan.scanFrom [] template

end BraceTemplate
