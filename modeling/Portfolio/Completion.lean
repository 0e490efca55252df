/-
  File:      Portfolio/Completion.lean
  Subject:   What can be typed next.

  * The first word completes to the words of commands, any other word to
    the names in the directory that it leads into.
  * `complete`: the suggestions for a text, in order.
  * `completions`: the suggestions with the number of characters before the
    cursor that each one takes the place of.
  * `completionsAt`: the same for a cursor within a text.
-/
import Portfolio.Session

namespace Portfolio.Completion

open Portfolio.Text

/-- The words of all commands that start with the given text. -/
def commandSuggestions (start : String) : List String :=
  ((Command.all.map Command.word ++ Command.aliases.map Prod.fst).filter fun word =>
    start.toList.isPrefixOf word.toList).mergeSort (· ≤ ·)

/-- A path cut after its last slash. -/
def cutAtSlash (path : String) : String × String :=
  let tail := (path.toList.reverse.takeWhile (· != '/')).reverse
  (String.ofList (path.toList.take (path.length - tail.length)), String.ofList tail)

/-- The name as a suggestion: a directory ends in a slash. -/
def suggestion (e : DirectoryEntry) : String :=
  if e.isDirectory then e.name ++ "/" else e.name

/-- The directory that the part of a path up to its last slash leads to;
    without a slash, the current directory. -/
def directoryOf? (s : Session) (head : String) : Option String :=
  if head = "" then some s.cwd
  else
    match s.filesystem.resolve (some head) s.cwd with
    | .ok (some (.directory _ path _ _)) => some path
    | _ => none

/-- The names that a path can go on with. -/
def pathSuggestions (s : Session) (path : String) : List String :=
  let (head, tail) := cutAtSlash path
  match directoryOf? s head with
  | none => []
  | some directory =>
    match s.filesystem.list (some directory) "/" with
    | .error _ => []
    | .ok entries =>
      ((entries.filter fun e => tail.toList.isPrefixOf e.name.toList).map suggestion).mergeSort
        (· ≤ ·)

/-- The text ends in a blank, so that a new word begins. -/
def endsBlank (text : String) : Bool :=
  match text.toList.getLast? with
  | some c => isBlank c
  | none => false

/-- The parts of a text without the blanks before it. -/
def parsed (text : String) : Command.Line :=
  Command.parse (String.ofList (stripLeft text.toList))

/-- The suggestions for a text. -/
def complete (s : Session) (text : String) : List String :=
  if allBlank text.toList then []
  else
    let line := parsed text
    if line.args.isEmpty && !endsBlank text then commandSuggestions line.name
    else if (Command.ofWord? line.name).isNone then []
    else pathSuggestions s (if endsBlank text then "" else line.args.getLast?.getD "")

/-- What a suggestion takes the place of. -/
def replaced (text : String) : String :=
  let line := parsed text
  if endsBlank text then ""
  else
    match line.args.getLast? with
    | none => line.name
    | some arg => (cutAtSlash arg).2

/-- The suggestions for the text before the cursor, each with the offset at
    which it starts, counted back from the cursor. -/
def completions (s : Session) (text : String) : List (String × Int) :=
  if allBlank text.toList then []
  else (complete s text).map fun word => (word, -(replaced text).length)

/-- The text before the cursor. A negative cursor is counted from the end. -/
def beforeCursor (text : String) (cursor : Int) : Except DataFault String :=
  if cursor > text.length then .error .cursorBeyondText
  else .ok (String.ofList (slice text.toList 0 cursor))

/-- The suggestions for the text before a cursor. -/
def completionsAt (s : Session) (text : String) (cursor : Int) :
    Except DataFault (List (String × Int)) :=
  (beforeCursor text cursor).map (completions s)

end Portfolio.Completion
