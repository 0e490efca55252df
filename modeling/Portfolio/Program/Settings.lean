/-
  File:      Portfolio/Program/Settings.lean
  Subject:   The settings of a run: from the environment and the arguments.

  * `ofEnvironment`: what the environment says, else the defaults.
  * `override`: what the arguments give goes before; an empty argument
    gives nothing.
  * `describe`: the settings on one line.
-/
import Portfolio.Text.Case
import Portfolio.Text.Quoted

namespace Portfolio.Program

/-- What the environment says. -/
structure Environment where
  data : Option String := none
  logLevel : Option String := none
  startDirectory : Option String := none
  deriving DecidableEq, Repr, Inhabited

/-- What the options on the command line say. -/
structure Overrides where
  data : Option String := none
  logLevel : Option String := none
  startDirectory : Option String := none
  deriving DecidableEq, Repr, Inhabited

/-- The settings of a run. -/
structure Settings where
  dataPath : Option String
  logLevel : String
  startDirectory : String
  deriving DecidableEq, Repr, Inhabited

/-- A text that is not empty. -/
def given? (s : Option String) : Option String :=
  s.filter (· ≠ "")

/-- The name of a logging level, in upper case. -/
def levelName (s : String) : String :=
  String.ofList (Text.upper s.toList)

namespace Settings

/-- The settings that the environment gives. -/
def ofEnvironment (env : Environment) : Settings where
  dataPath := given? env.data
  logLevel := levelName (env.logLevel.getD "WARNING")
  startDirectory := env.startDirectory.getD "/"

/-- The settings with what the arguments give. -/
def override (s : Settings) (o : Overrides) : Settings where
  dataPath := (given? o.data).or s.dataPath
  logLevel := ((given? o.logLevel).map levelName).getD s.logLevel
  startDirectory := (given? o.startDirectory).getD s.startDirectory

/-- A setting between quotes, or the word for none. -/
def shown : Option String → String
  | some s => Text.quoted s
  | none => "None"

/-- The settings on one line. -/
def describe (s : Settings) : String :=
  "ConsoleConfig(data_path=" ++ shown s.dataPath ++ ", log_level=" ++ Text.quoted s.logLevel ++
    ", start_dir=" ++ Text.quoted s.startDirectory ++ ")"

end Settings

end Portfolio.Program
