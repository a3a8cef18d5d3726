import BraceTemplate.Calendar.DatePattern
import BraceTemplate.Pattern.Matcher

/-!
# BraceTemplate.Packages

The packages that an expansion stands on: one for regular expressions and one that writes dates.
What is proved for every `Packages` holds whatever they do; `Packages.standard` is the pair that
runs.
-/

namespace BraceTemplate

class Packages where
  engine : Pattern.Engine
  /-- A moment by a pattern, on the clock of a zone and with the names of a locale; none for a
  pattern that is turned down. -/
  writeDate : Calendar.Moment → Text → Calendar.Zone → Text → Except Fault (Option Text)

namespace Packages

/-- A trial at a moment settles a pattern: one that is turned down then is turned down at every time
and in every zone. -/
def Settles (packages : Packages) (now : Calendar.Moment) : Prop :=
  ∀ pattern zone locale, packages.writeDate now pattern zone locale = .ok none →
    ∀ m zone' text, packages.writeDate m pattern zone' locale ≠ .ok (some text)

instance standard : Packages where
  engine := Pattern.engine
  writeDate := Calendar.writeDate

end Packages

namespace Calendar

/-- An instant in a written pattern, on the clock of a zone and with the names of a locale. The
letters are looked at before the pattern is handed on. -/
def formatDate [Packages] (m : Moment) (pattern : Text) (zone : Zone) (locale : Text) :
    Except Failure Text :=
  match DatePattern.unknownLetter? false pattern with
  | some c => .error (.expansion (.unknownDateLetter c pattern))
  | none =>
    match Packages.writeDate m pattern zone locale with
    | .error f => .error (.fault f)
    | .ok none => .error (.expansion (.invalidDatePattern pattern))
    | .ok (some text) => .ok text

section

variable [Packages] {m : Moment} {pattern locale : Text} {zone : Zone}

theorem formatDate_eq_ok_iff {text : Text} :
    formatDate m pattern zone locale = .ok text ↔
      DatePattern.unknownLetter? false pattern = none ∧
        Packages.writeDate m pattern zone locale = .ok (some text) := by
  unfold formatDate
  cases DatePattern.unknownLetter? false pattern with
  | some c => simp
  | none =>
    rcases Packages.writeDate m pattern zone locale with f | _ | written
    · simp
    · simp
    · simp

theorem formatDate_eq_unknownDateLetter_iff {c : CodePoint} :
    formatDate m pattern zone locale = .error (.expansion (.unknownDateLetter c pattern)) ↔
      DatePattern.unknownLetter? false pattern = some c := by
  unfold formatDate
  cases DatePattern.unknownLetter? false pattern with
  | some d => simp
  | none =>
    rcases Packages.writeDate m pattern zone locale with f | _ | written
    · simp
    · simp
    · simp

theorem formatDate_eq_expansion {e : ExpansionError}
    (h : formatDate m pattern zone locale = .error (.expansion e)) :
    DatePattern.unknownLetter? false pattern ≠ none ∨
      Packages.writeDate m pattern zone locale = .ok none := by
  unfold formatDate at h
  split at h
  · rename_i c hc
    exact .inl (by simp [hc])
  · split at h
    · cases h
    · rename_i hnone
      exact .inr hnone
    · cases h

end

end Calendar

end BraceTemplate
