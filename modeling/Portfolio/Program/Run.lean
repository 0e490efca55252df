/-
  File:      Portfolio/Program/Run.lean
  Subject:   A run of the program, from the command line to what is printed.

  * `write`: pieces of text are written one after the other, up to the first
    that the terminal cannot print; there the program stops.
  * `openSession`: the content is loaded, the tree is built, a session
    begins; the log says so.
  * `turn`: what one line writes, and whether the console goes on after it.
  * `converse`: the console over the lines that a user types. Before each
    line the current directory is shown; at the end of the lines it closes.
  * `begin`: the run up to the first line, `runOn`: all of it.
-/
import Portfolio.Content.Load
import Portfolio.Program.Arguments
import Portfolio.Program.Terminal
import Portfolio.Session

namespace Portfolio.Program

/-! ## 1. Printing -/

/-- The two streams that a program writes to. -/
inductive Stream where
  | out
  | err
  deriving DecidableEq, Repr

/-- A piece of text that is printed. -/
inductive Printed where
  /-- A line of the log. It does not go through the terminal. -/
  | entry (line : String)
  | text (stream : Stream) (style : Style) (text : String)
  deriving DecidableEq, Repr

/-- What is written to the two streams. -/
structure Written where
  out : String := ""
  err : String := ""
  deriving DecidableEq, Repr

/-- One thing is written after the other. -/
instance : Append Written where
  append first second := ⟨first.out ++ second.out, first.err ++ second.err⟩

/-- A text on one of the streams. -/
def Written.on (text : String) : Stream → Written
  | .out => { out := text }
  | .err => { err := text }

/-- What a piece writes, or why it cannot be printed. -/
def Terminal.piece (t : Terminal) : Printed → Except DataFault Written
  | .entry line => .ok { err := line ++ "\n" }
  | .text stream style text => (t.put style text).map fun written => .on written stream

/-- What pieces write up to the first that cannot be printed, and whether
    there is one. -/
def Terminal.write (t : Terminal) : List Printed → Written × Except DataFault Unit
  | [] => ({}, .ok ())
  | p :: rest =>
    match t.piece p with
    | .error f => ({}, .error f)
    | .ok first =>
      let (more, ended) := t.write rest
      (first ++ more, ended)

/-- Where a file leads to, as it is shown. An id is read from a document, so
    that it has a text even if it is an integer (`Json.integerLimit`). -/
def navigationText : Navigation → String
  | .external url => "-> " ++ url
  | .record id => "-> project " ++ id.display

/-- What a result prints. A failure prints its text only. Where a result
    leads to may be broken, unlike its text. -/
def printResult (r : Result) : List Printed :=
  if r.failed then [.text .err .verbatim r.output]
  else
    (if r.output = "" then [] else [.text .out .verbatim r.output]) ++
      r.navigation.toList.map fun n => .text .out .broken (navigationText n)

/-- What log entries print. -/
def printLog (least : Nat) (entries : List Log.Entry) : List Printed :=
  (Log.shown least entries).map fun e => .entry e.line

/-! ## 2. Beginning -/

/-- The content to start with: without a file, none. -/
def contentOf (read : Content.Reader) : Option String → Except Error Content.Loaded
  | none => .ok {profile := {}, records := []}
  | some path => Content.load read path

/-- What the log says about the content. -/
def contentLog (dataPath : Option String) (content : Content.Loaded) : List Log.Entry :=
  dataPath.toList.map fun path => Content.loadEntry path content

/-- The session that the settings ask for, and what the log says. -/
def openSession (read : Content.Reader) (s : Settings) : List Log.Entry × Except Error Session :=
  match contentOf read s.dataPath with
  | .error e => ([], .error e)
  | .ok content =>
    let loaded := contentLog s.dataPath content
    match Filesystem.ofRecords content.profile content.records with
    | .error f => (loaded, .error (.fault f))
    | .ok built =>
      (loaded ++ built.log,
        (Session.start built.result (some s.startDirectory)).mapError .console)

/-- The words for an error that keeps the program from starting; a fault
    in the data has none. -/
def startMessage : Error → Except DataFault String
  | .console e => .ok ("foliofs: " ++ e.message)
  | .content e => .ok ("foliofs: " ++ e.message)
  | .fault f => .error f

/-! ## 3. Lines -/

/-- What a line prints, the session after it, and whether the console
    closes. Clearing shows nothing, and does not close. -/
def answer (least : Nat) (s : Session) (line : String) : List Printed × Session × Bool :=
  let log := printLog least (s.execLog (some line))
  let (result, s) := s.exec (some line)
  if result.clear then (log, s, false)
  else (log ++ printResult result, s, result.exit)

/-- What is shown before a line is typed. -/
def prompt (s : Session) : String :=
  s.cwd ++ "$ "

/-- What becomes of the console at a line: it goes on in a session, or ends
    with a status, or at something that cannot be printed. -/
inductive Turn where
  | goes (written : Written) (s : Session)
  | ends (written : Written) (ended : Except DataFault Nat)

/-- The console at a line. -/
def turn (t : Terminal) (least : Nat) (s : Session) (line : String) : Turn :=
  let (printed, s, closes) := answer least s line
  match t.write printed with
  | (written, .error f) => .ends written (.error f)
  | (written, .ok ()) => if closes then .ends written (.ok 0) else .goes written s

/-- A run of the program: the status it ends with, or why it stops; what is
    written till then; what was shown before each line; and how many lines
    are not read. -/
structure Transcript where
  ended : Except DataFault Nat
  written : Written := {}
  prompts : List String := []
  unread : Nat := 0
  deriving Repr

/-- The transcript with more before it. -/
def Transcript.after (tr : Transcript) (written : Written) (prompts : List String) : Transcript :=
  { tr with written := written ++ tr.written, prompts := prompts ++ tr.prompts }

/-- The console over the lines that are typed. -/
def converse (t : Terminal) (least : Nat) (s : Session) : List String → Transcript
  | [] => { ended := .ok 0, prompts := [prompt s] }
  | line :: rest =>
    match turn t least s line with
    | .ends written ended => { ended, written, prompts := [prompt s], unread := rest.length }
    | .goes written next => (converse t least next rest).after written [prompt s]

/-- Pieces are printed, and then the program ends with a status. -/
def Terminal.finish (t : Terminal) (printed : List Printed) (status : Nat) : Transcript :=
  let (written, ended) := t.write printed
  { ended := ended.map fun _ => status, written }

/-- One line, run on its own. -/
def runLine (t : Terminal) (least : Nat) (s : Session) (line : String) : Transcript :=
  let log := printLog least (s.execLog (some line))
  let (result, _) := s.exec (some line)
  t.finish (log ++ printResult result) (if result.failed then 1 else 0)

/-! ## 4. The whole run -/

/-- How a run begins: it is over before a line is read, or the console is
    open. -/
inductive Begun where
  | over (tr : Transcript)
  | console (written : Written) (least : Nat) (s : Session)

/-- The run after the command line has been understood, up to the first line
    that is read. -/
def begin (t : Terminal) (env : Environment) (read : Content.Reader) (asked : Invocation) :
    Begun :=
  let settings := (Settings.ofEnvironment env).override asked.overrides
  match Log.threshold settings.logLevel with
  | .error f => .over { ended := .error f }
  | .ok least =>
    let (log, opened) := openSession read settings
    let log := printLog least log
    match opened with
    | .error e =>
      match startMessage e with
      | .error f => .over { ended := .error f, written := (t.write log).1 }
      | .ok text => .over (t.finish (log ++ [.text .err .unbroken text]) 2)
    | .ok s =>
      match asked.request with
      | .run line => .over ((runLine t least s line).after (t.write log).1 [])
      | .converse => .console (t.write log).1 least s

/-- The whole run after the command line has been understood. -/
def runInvocation (t : Terminal) (env : Environment) (read : Content.Reader)
    (lines : List String) (asked : Invocation) : Transcript :=
  match begin t env read asked with
  | .over tr => { tr with unread := lines.length }
  | .console written least s => (converse t least s lines).after written []

/-- What a run leaves behind: the status, the two streams, what was shown
    before each line, and how many lines were not read. -/
structure Report where
  status : Nat
  stdout : String
  stderr : String
  prompts : List String
  unread : Nat
  deriving DecidableEq, Repr

/-- What a run leaves behind that does not stop. -/
def Transcript.report (tr : Transcript) : Except DataFault Report :=
  tr.ended.map fun status => ⟨status, tr.written.out, tr.written.err, tr.prompts, tr.unread⟩

/-- The whole run on a terminal. -/
def runOn (t : Terminal) (args : List String) (env : Environment) (read : Content.Reader)
    (lines : List String) : Except DataFault Report :=
  match parseArguments args with
  | .error e => .ok ⟨e.status, e.stdout, e.stderr, [], lines.length⟩
  | .ok asked => (runInvocation t env read lines asked).report

/-- The whole run on the terminal that folds. -/
def run : List String → Environment → Content.Reader → List String → Except DataFault Report :=
  runOn .folding

end Portfolio.Program
