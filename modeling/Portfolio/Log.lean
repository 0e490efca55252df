/-
  File:      Portfolio/Log.lean
  Subject:   Log entries, and the level from which on they are shown.

  * `Entry.line`: one line, with the level and the part of the program.
  * `threshold`: the least severity that a level name admits; an unknown
    name admits warnings and worse.
-/
import Portfolio.Error

namespace Portfolio.Log

/-- How severe an entry is. -/
inductive Level where
  | debug
  | info
  | warning
  | error
  deriving DecidableEq, Repr

/-- The name of a level. -/
def Level.name : Level → String
  | .debug => "DEBUG"
  | .info => "INFO"
  | .warning => "WARNING"
  | .error => "ERROR"

/-- The severity of a level. -/
def Level.severity : Level → Nat
  | .debug => 10
  | .info => 20
  | .warning => 30
  | .error => 40

/-- One entry of the log. -/
structure Entry where
  level : Level
  source : String
  text : String
  deriving DecidableEq, Repr

/-- An entry as a line. -/
def Entry.line (e : Entry) : String :=
  e.level.name ++ " " ++ e.source ++ ": " ++ e.text

/-- The severities of the level names. -/
def severities : List (String × Nat) :=
  [("CRITICAL", 50), ("FATAL", 50), ("ERROR", 40), ("WARNING", 30), ("WARN", 30),
   ("INFO", 20), ("DEBUG", 10), ("NOTSET", 0)]

/-- The least severity that is shown under a level name. Two words are
    reserved and name no level. -/
def threshold (name : String) : Except DataFault Nat :=
  if name = "BASIC_FORMAT" then .error .levelIsText
  else if name = "_STYLES" then .error .levelIsTable
  else .ok ((severities.lookup name).getD Level.warning.severity)

/-- The entries that are shown. -/
def shown (least : Nat) (entries : List Entry) : List Entry :=
  entries.filter fun e => least ≤ e.level.severity

end Portfolio.Log
