/-
  File:      Portfolio/Session.lean
  Subject:   A session: the current directory, the history, the commands.

  * `start`: a session begins in a directory that exists; at the root it
    may begin before the tree is built.
  * `exec`: one line. A blank line does nothing; any other is kept in the
    history, refused if it asks for a feature of a real shell, and else
    handed to the handler of its command.
  * `execIn`: one line with handlers of any kind. Two guards stand around
    them: errors become results, and what else is raised leaves the session.
  * `changeDirectory`: moves only into a directory.
-/
import Portfolio.Command.Builtin
import Portfolio.Command.Line

namespace Portfolio

open Json (Value)

/-- The state of a session. -/
structure Session where
  filesystem : Filesystem
  cwd : String := "/"
  history : List String := []
  handlers : List (Command × Handler) := Command.Builtin.registry.handlers

namespace Session

/-! ## 1. Beginning -/

/-- A session that begins in the directory at a path. -/
def start (fs : Filesystem) (path : Option String) : Except ConsoleError Session := do
  if Path.resolve path "/" = "/" then return { filesystem := fs }
  match ← fs.resolve path "/" with
  | none => throw (.pathNotFound path)
  | some (.file ..) => throw (.notADirectory path)
  | some (.directory _ cwd _ _) => return { filesystem := fs, cwd }

/-- The words of the commands that can be run, in order. -/
def availableCommands (s : Session) : List String :=
  (s.handlers.map (·.1.word)).mergeSort (· ≤ ·)

/-- The session with another handler for a command, or with none. -/
def withHandler (s : Session) (command : Command) (handler : Option Handler) : Session :=
  let others := s.handlers.filter (·.1 ≠ command)
  { s with handlers := others ++ (handler.map fun h => (command, h)).toList }

/-! ## 2. Moving -/

/-- The session in the directory at a path, and whether there is one. -/
def changeDirectory (s : Session) (path : Option String) : Bool × Session :=
  match s.filesystem.resolve path s.cwd with
  | .ok (some (.directory _ cwd _ _)) => (true, { s with cwd })
  | _ => (false, s)

/-! ## 3. Running a line -/

/-- What a handler looks at. -/
def view (s : Session) : View :=
  ⟨s.filesystem, s.cwd⟩

/-- The handler of a command. -/
def handler? (s : Session) (command : Command) : Option Handler :=
  s.handlers.lookup command

/-- What a line that is not blank asks of a table of handlers: the command,
    its handler and the arguments, or why it is refused. -/
def requestIn {α : Type} (table : List (Command × α)) (line : String) :
    Except ConsoleError (Command × α × List String) :=
  if Command.hasShellFeature line then .error .shellFeature
  else
    let parsed := Command.parse line
    match Command.ofWord? parsed.name with
    | none => .error (.unknownCommand parsed.name)
    | some command =>
      match table.lookup command with
      | none => .error (.unknownCommand parsed.name)
      | some handler => .ok (command, handler, parsed.args)

/-- What a line that is not blank asks of the session. -/
def request (s : Session) (line : String) :
    Except ConsoleError (Command × Handler × List String) :=
  requestIn s.handlers line

/-- The result of a line that is not blank, and where the session is
    after it. -/
def dispatch (s : Session) (line : String) : Result × String :=
  match s.request line with
  | .error e => (e.toResult, s.cwd)
  | .ok (command, handler, args) =>
    match handler s.view args with
    | .error failure => (failure.toResult command, s.cwd)
    | .ok reply => (reply.answer.toResult, reply.moveTo.getD s.cwd)

/-- The line as it is run: without blanks at its ends, `none` if nothing is
    left. -/
def lineOf? (line : Option String) : Option String :=
  let bare := String.ofList (Text.strip (line.getD "").toList)
  if bare = "" then none else some bare

/-- The result of a line, and the session after it. -/
def exec (s : Session) (line : Option String) : Result × Session :=
  match lineOf? line with
  | none => ({}, s)
  | some line =>
    let (result, cwd) := s.dispatch line
    (result, { s with cwd, history := s.history ++ [line] })

/-! ## 4. Handlers of any kind -/

section Acting

variable {m : Type → Type} [Monad m]

/-- What comes of a call, behind the guard around it: an error that is not
    one of the console becomes a result, for which its text is needed. What
    the handler says becomes a result outside of this guard. -/
def concluded (command : Command) : Except Raised Said → Except Raised Result
  | .error (.console text) => .error (.console text)
  | .error (.ordinary text) => text.map fun message => (Failure.broken message).toResult command
  | .error .leaving => .error .leaving
  | .ok (.result r) => .ok r
  | .ok .nothing => .ok {}
  | .ok (.value text) => text.map fun output => { output }

/-- What comes of a line, behind the guard around all of it: an error of the
    console becomes a result, wherever it was raised. -/
def surfaced : Except Raised Result → Except Raised Result
  | .error (.console text) =>
    text.map fun message => { output := "Error: " ++ message, failed := true }
  | outcome => outcome

/-- What comes of a line that is not blank, before the guard around all of
    it, and where the session is after it, with the handlers of a table. -/
def dispatchIn (s : Session) (table : List (Command × HandlerIn m)) (line : String) :
    m (Except Raised Result × String) :=
  match requestIn table line with
  | .error e => pure (.error (.console (.ok e.message)), s.cwd)
  | .ok (command, handler, args) => do
    let conduct ← handler s.view args
    return (concluded command conduct.said, conduct.moveTo.getD s.cwd)

/-- What comes of a line, and the session after it, with the handlers of a
    table. -/
def execIn (s : Session) (table : List (Command × HandlerIn m)) (typed : Option String) :
    m (Except Raised Result × Session) :=
  match lineOf? typed with
  | none => pure (.ok {}, s)
  | some line => do
    let (outcome, cwd) ← s.dispatchIn table line
    return (surfaced outcome, { s with cwd, history := s.history ++ [line] })

end Acting

/-- What comes of a line, and the session after it, with the handlers of a
    table that do not act. -/
def execWith (s : Session) (table : List (Command × OpenHandler)) (typed : Option String) :
    Except Raised Result × Session :=
  Id.run (s.execIn table typed)

/-! ## 5. The log -/

/-- The source of the entries of a session. -/
def logSource : String := "foliofs.shell.core"

/-- What the log says about the outcome of a handler: a failure that no one
    has foreseen is an error. The trace of where it comes from, which is
    written after it, is left out. -/
def failureEntries (command : Command) : Except Failure Reply → List Log.Entry
  | .error (.broken _) => [⟨.error, logSource, "Command " ++ command.word ++ " failed"⟩]
  | _ => []

/-- What the log says about a line that is not blank. -/
def entriesOf (s : Session) (line : String) : List Log.Entry :=
  match s.request line with
  | .error .shellFeature =>
    [⟨.debug, logSource, "Rejected shell syntax in " ++ Text.quoted line⟩]
  | .error _ => []
  | .ok (command, handler, args) =>
    ⟨.debug, logSource, "Dispatching " ++ command.word ++ " with " ++
      (Value.list (args.map .text)).inspect⟩ :: failureEntries command (handler s.view args)

/-- What the log says about a line. -/
def execLog (s : Session) (line : Option String) : List Log.Entry :=
  match lineOf? line with
  | none => []
  | some line => s.entriesOf line

end Session

end Portfolio
