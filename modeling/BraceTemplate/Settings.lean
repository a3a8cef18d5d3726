import BraceTemplate.Text.Basic

/-!
# BraceTemplate.Settings

What expansions share: the locale of dates, the zone of dates without one of their own, and how
much is logged.
-/

namespace BraceTemplate

inductive LogLevel where
  | debug
  | info
  | warning
  | error
  | critical
  deriving DecidableEq, Repr

namespace LogLevel

def name : LogLevel → String
  | debug => "DEBUG"
  | info => "INFO"
  | warning => "WARNING"
  | error => "ERROR"
  | critical => "CRITICAL"

def all : List LogLevel := [debug, info, warning, error, critical]

def ofName? (t : Text) : Option LogLevel := all.find? fun l => l.name.toText = t

/-- Levels in increasing order of weight. -/
def weight : LogLevel → Nat
  | debug => 10
  | info => 20
  | warning => 30
  | error => 40
  | critical => 50

end LogLevel

structure Settings where
  locale : Text := "en_US".toText
  defaultZone : Option Text := none
  logLevel : LogLevel := .warning
  deriving DecidableEq, Repr

end BraceTemplate
