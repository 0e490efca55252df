/-
  File:      Portfolio/Command/Handler.lean
  Subject:   What a command is given and what it gives back.

  * `Result`: the text, whether it tells of a failure, a place to navigate
    to, and the wishes to close or clear the console.
  * `Handler`: a function of what is in view and of the arguments. It fails,
    or gives a reply and, if it moves, the new current directory. A handler
    that fails has moved nowhere.
  * `HandlerIn`: a handler of any kind. It acts before it ends, may move and
    yet fail, may raise what no guard catches, and may give a value or an
    error whose text cannot be had.
-/
import Portfolio.Command.Name
import Portfolio.Filesystem

namespace Portfolio

open Json (Value)

/-! ## 1. What the commands of the console do -/

/-- Where a file leads to. -/
inductive Navigation where
  | record (id : Value)
  | external (url : String)
  deriving Repr, Inhabited

/-- The outcome of a line. -/
structure Result where
  output : String := ""
  failed : Bool := false
  navigation : Option Navigation := none
  exit : Bool := false
  clear : Bool := false
  deriving Repr, Inhabited

/-- What a command looks at. -/
structure View where
  filesystem : Filesystem
  cwd : String
  deriving Repr, Inhabited

/-- What a handler says: a whole result, nothing, or a bare text. -/
inductive Answer where
  | result (r : Result)
  | nothing
  | text (s : String)
  deriving Repr, Inhabited

/-- What a handler does: it says something and may move. -/
structure Reply where
  answer : Answer
  moveTo : Option String := none
  deriving Repr, Inhabited

/-- How a handler fails: with a message for the user, or for another
    reason. -/
inductive Failure where
  | refused (message : String)
  | broken (message : String)
  deriving DecidableEq, Repr

/-- A handler. -/
abbrev Handler := View → List String → Except Failure Reply

/-- The result that an answer makes. -/
def Answer.toResult : Answer → Result
  | .result r => r
  | .nothing => {}
  | .text s => { output := s }

/-- The result that a failure of a command makes. -/
def Failure.toResult (command : Command) : Failure → Result
  | .refused message => { output := "Error: " ++ message, failed := true }
  | .broken message =>
    { output := "Error: " ++ command.word ++ " failed: " ++ message, failed := true }

/-- The result of a line that is refused. -/
def ConsoleError.toResult (e : ConsoleError) : Result :=
  { output := "Error: " ++ e.message, failed := true }

/-! ## 2. Handlers of any kind -/

/-- What is raised, by what catches it, with its text; the making of a text
    may raise in its turn. -/
inductive Raised where
  /-- An error of the console. -/
  | console (text : Except Raised String)
  /-- An error of another kind. -/
  | ordinary (text : Except Raised String)
  /-- No error, but the wish to leave the program. -/
  | leaving

/-- What a handler of any kind says: a whole result, nothing, or another
    value, with its text. -/
inductive Said where
  | result (r : Result)
  | nothing
  | value (text : Except Raised String)

/-- What a handler of any kind does: it says or raises something, and may
    move in either case. -/
structure Conduct where
  said : Except Raised Said
  moveTo : Option String := none

/-- A handler of any kind, which acts in a monad before it ends. -/
abbrev HandlerIn (m : Type → Type) := View → List String → m Conduct

/-- A handler of any kind that does not act. -/
abbrev OpenHandler := View → List String → Conduct

/-- What a failure raises. -/
def Failure.raised : Failure → Raised
  | .refused message => .console (.ok message)
  | .broken message => .ordinary (.ok message)

/-- What an answer says. -/
def Answer.said : Answer → Said
  | .result r => .result r
  | .nothing => .nothing
  | .text s => .value (.ok s)

end Portfolio
