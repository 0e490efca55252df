/-
  File:      Portfolio/Command/Builtin.lean
  Subject:   The nine commands of the console.

  * Each command works on the filesystem as seen from the current
    directory; only `open` on a directory moves.
  * `open` on a file of a project with an id leads to that project; on any
    other file to its address, if it has one; else it shows the text.
  * `registry`: all commands with their descriptions, in the order in which
    they are registered.
-/
import Portfolio.Command.Handler
import Portfolio.Command.Registry
import Portfolio.Decimal.Numeral

namespace Portfolio.Command.Builtin

/-- A reply that shows a text. -/
def shows (output : String) : Reply :=
  { answer := .result { output } }

/-- A handler whose only failures are those of the console. -/
def handler (f : View → List String → Except ConsoleError Reply) : Handler := fun view args =>
  (f view args).mapError fun e => .refused e.message

/-! ## 1. Around the console -/

/-- The help text. -/
def helpText : String := "Console Mode - Available Commands

NAVIGATION:
  list [path]          List directory contents (alias: ls, dir)
  open <path>          Navigate to directory or open file (alias: cd)
  cwd                  Show current working directory (alias: pwd)

FILE OPERATIONS:
  read <path>          Read file contents (alias: cat)
  tree [path] [depth]  Display tree structure (default depth: 3)

SEARCH:
  search <keyword>     Search for keyword across all content

UTILITY:
  help                 Display this help message
  clear                Clear console output
  exit                 Close console (alias: quit)

PATH NOTATION:
  /                    Root directory
  .                    Current directory
  ..                   Parent directory
  /absolute/path       Absolute path from root
  relative/path        Relative to current directory

FILESYSTEM STRUCTURE:
  /base/               About, contact, resume
  /projects/           Project directories
  /meta/               System information

NOTE: This is a read-only portfolio system. Shell features like pipes,
redirection, and command chaining are not supported."

/-- Shows the help text. -/
def help (_ : View) (_ : List String) : Except ConsoleError Reply :=
  .ok (shows helpText)

/-- Clears the console. -/
def clear (_ : View) (_ : List String) : Except ConsoleError Reply :=
  .ok { answer := .result { clear := true } }

/-- Closes the console. -/
def exit (_ : View) (_ : List String) : Except ConsoleError Reply :=
  .ok { answer := .result { output := "Closing console...", exit := true } }

/-! ## 2. Moving and looking around -/

/-- Shows the current directory. -/
def cwd (view : View) (_ : List String) : Except ConsoleError Reply :=
  .ok (shows view.cwd)

/-- The first argument, or the current directory. -/
def target (args : List String) : String :=
  args.head?.getD "."

/-- One line for each entry; directories end in a slash. -/
def listing : List DirectoryEntry → String
  | [] => "(empty directory)"
  | entries => "\n".intercalate
      (entries.map fun e => if e.isDirectory then e.name ++ "/" else e.name)

/-- Shows the entries of a directory. -/
def list (view : View) (args : List String) : Except ConsoleError Reply := do
  return shows (listing (← view.filesystem.list (some (target args)) view.cwd))

/-- Opens a file. -/
def openFile (view : View) (path content : String) (url : Option String) :
    Except ConsoleError Reply := do
  match ← view.filesystem.projectIdOf (some path) "/" with
  | some id =>
    let result := { output := "Opening project: " ++ path, navigation := some (.record id) }
    return { answer := .result result }
  | none =>
    match url.filter (· ≠ "") with
    | some url =>
      let result := { output := "Opening: " ++ path, navigation := some (.external url) }
      return { answer := .result result }
    | none => return shows (if content = "" then "(empty file)" else content)

/-- Enters a directory or opens a file. -/
def openNode (view : View) : List String → Except ConsoleError Reply
  | [] => .ok (shows ("Current directory: " ++ view.cwd))
  | path :: _ => do
    match ← view.filesystem.resolve (some path) view.cwd with
    | none => throw (.pathNotFound (some path))
    | some (.directory _ path _ _) =>
      return { shows ("Changed directory to " ++ path) with moveTo := some path }
    | some (.file _ path content url) => openFile view path content url

/-- The depth of a drawing unless one is given. -/
def defaultDepth : Int := 3

/-- The depth that an argument gives: a positive number. -/
def depthOf (arg : String) : Except ConsoleError Int :=
  match Decimal.readInteger arg with
  | none => .error .invalidDepth
  | some depth => if depth < 1 then .error .invalidDepth else .ok depth

/-- Draws the tree. -/
def tree (view : View) (args : List String) : Except ConsoleError Reply := do
  let depth ← match args with
    | _ :: depth :: _ => depthOf depth
    | _ => .ok defaultDepth
  return shows (← view.filesystem.drawing (some (target args)) depth view.cwd)

/-! ## 3. Text -/

/-- The lines of a hit of the given number. -/
def hitLines (index : Nat) (hit : Search.Hit) : List String :=
  ["[" ++ countText index ++ "] " ++ hit.path, "    " ++ hit.snippet]

/-- The lines of hits, with a blank line between two of them. -/
def hitsLines : Nat → List Search.Hit → List String
  | _, [] => []
  | index, [hit] => hitLines index hit
  | index, hit :: rest => hitLines index hit ++ [""] ++ hitsLines (index + 1) rest

/-- The hits of a keyword as a text. -/
def hitsText (keyword : String) : List Search.Hit → String
  | [] => "No results found for: " ++ keyword
  | hits => "\n".intercalate
      (("Found " ++ countText hits.length ++ " result(s) for: " ++ keyword ++ "\n") ::
        hitsLines 1 hits)

/-- Searches the text of all files. -/
def search (view : View) (args : List String) : Except ConsoleError Reply := do
  if args.isEmpty then throw .missingKeyword
  let keyword := " ".intercalate args
  return shows (hitsText keyword (← view.filesystem.search keyword))

/-- Shows the text of a file. -/
def read (view : View) : List String → Except ConsoleError Reply
  | [] => .error .missingPath
  | path :: _ => do return shows (← view.filesystem.contentAt (some path) view.cwd)

/-! ## 4. All commands -/

/-- The handler of a command. -/
def handlerOf : Command → Handler
  | .list => handler list
  | .openNode => handler openNode
  | .read => handler read
  | .tree => handler tree
  | .search => handler search
  | .help => handler help
  | .clear => handler clear
  | .cwd => handler cwd
  | .exit => handler exit

/-- What a command does. -/
def describe : Command → String
  | .list => "List directory contents"
  | .openNode => "Navigate to directory or open file"
  | .read => "Read file contents"
  | .tree => "Display tree structure"
  | .search => "Search for keyword across all content"
  | .help => "Display this help message"
  | .clear => "Clear console output"
  | .cwd => "Show current working directory"
  | .exit => "Close console"

/-- The commands in the order in which they are registered. -/
def registered : List Command :=
  [.help, .clear, .exit, .cwd, .list, .openNode, .tree, .search, .read]

/-- The registry of all commands. -/
def registry : Registry Handler :=
  ⟨registered.map fun c => ⟨c, handlerOf c, describe c⟩⟩

end Portfolio.Command.Builtin
