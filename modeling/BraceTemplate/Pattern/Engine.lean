import BraceTemplate.Fault
import BraceTemplate.Pattern.Node

/-!
# BraceTemplate.Pattern.Engine

What an extraction asks of a package for regular expressions: to compile a pattern, to find its
first match in a text, and to say what a group of the match has captured.
-/

namespace BraceTemplate.Pattern

/-- Why a pattern is not compiled. -/
inductive CompileFailure where
  /-- It is no pattern, with the reason and where it was found. -/
  | invalid (reason : Text) (position : Nat)
  | fault (fault : Fault)
  deriving DecidableEq, Repr

structure Engine where
  Compiled : Type
  Match : Type
  compile : Text → Except CompileFailure Compiled
  search : Compiled → Text → Option Match
  captured? : Compiled → Match → GroupKey → Option Text

end BraceTemplate.Pattern
