/-
  File:      Portfolio/Program/Usage.lean
  Subject:   The command lines that the program accepts, and their help.

  * `Grammar`: the options and the operand of a command line, with the
    texts that explain them, laid out for 80 columns.
  * `top`, `exec`, `shell`: the program itself and its two modes.
-/
namespace Portfolio.Program

/-- The options. -/
inductive Flag where
  | help
  | data
  | cwd
  | logLevel
  deriving DecidableEq, Repr

/-- The name of an option in a message. -/
def Flag.title : Flag → String
  | .help => "-h/--help"
  | .data => "--data"
  | .cwd => "--cwd"
  | .logLevel => "--log-level"

/-- The form of a command line. -/
structure Grammar where
  /-- The words that call it. -/
  program : String
  usage : String
  help : String
  /-- The spellings of the options. -/
  flags : List (String × Flag)
  /-- The name of the word that is no option, if there has to be one. -/
  operand : Option String
  deriving Repr

/-- The spellings of the option for help. -/
def helpFlags : List (String × Flag) :=
  [("-h", .help), ("--help", .help)]

/-- The spellings of the options of a mode. -/
def modeFlags : List (String × Flag) :=
  helpFlags ++ [("--data", .data), ("--cwd", .cwd), ("--log-level", .logLevel)]

/-- The part of the help about the options of a mode. -/
def modeOptionsHelp : String := "options:
  -h, --help            show this help message and exit
  --data DATA           Content JSON file (list of projects, or \x7bprofile,
                        projects\x7d).
  --cwd CWD             Directory the session starts in (default: /).
  --log-level LOG_LEVEL
                        Logging level (default: WARNING, or
                        $FOLIOFS_LOG_LEVEL).
"

/-- The usage of the program. -/
def topUsage : String := "usage: foliofs [-h] \x7bexec,shell\x7d ...\n"

/-- The usage of the mode that runs one command. -/
def execUsage : String :=
  "usage: foliofs exec [-h] [--data DATA] [--cwd CWD] [--log-level LOG_LEVEL]
                    command
"

/-- The usage of the mode that reads commands from its user. -/
def shellUsage : String :=
  "usage: foliofs shell [-h] [--data DATA] [--cwd CWD] [--log-level LOG_LEVEL]\n"

/-- The program: the word that is no option names the mode. -/
def top : Grammar where
  program := "foliofs"
  usage := topUsage
  help := topUsage ++ "
positional arguments:
  \x7bexec,shell\x7d
    exec        Run a single command
    shell       Start an interactive console

options:
  -h, --help    show this help message and exit
"
  flags := helpFlags
  operand := some "command_name"

/-- The mode that runs one command. -/
def exec : Grammar where
  program := "foliofs exec"
  usage := execUsage
  help := execUsage ++ "
positional arguments:
  command               Command string to execute

" ++ modeOptionsHelp
  flags := modeFlags
  operand := some "command"

/-- The mode that reads commands from its user. -/
def shell : Grammar where
  program := "foliofs shell"
  usage := shellUsage
  help := shellUsage ++ "\n" ++ modeOptionsHelp
  flags := modeFlags
  operand := none

end Portfolio.Program
