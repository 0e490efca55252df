/-
  File:      Portfolio/Command/Name.lean
  Subject:   The commands and the words for them.

  * `Command.word`: the canonical word of each of the nine commands.
  * `aliases`: other words for some of them.
  * `ofWord?`: the command that a word means; case matters.
-/
namespace Portfolio

/-- The commands of the console. -/
inductive Command where
  | list
  | openNode
  | read
  | tree
  | search
  | help
  | clear
  | cwd
  | exit
  deriving DecidableEq, Repr, Inhabited

namespace Command

/-- All commands. -/
def all : List Command :=
  [.list, .openNode, .read, .tree, .search, .help, .clear, .cwd, .exit]

/-- The word of a command. -/
def word : Command → String
  | .list => "list"
  | .openNode => "open"
  | .read => "read"
  | .tree => "tree"
  | .search => "search"
  | .help => "help"
  | .clear => "clear"
  | .cwd => "cwd"
  | .exit => "exit"

/-- Other words for commands. -/
def aliases : List (String × Command) :=
  [("ls", .list), ("dir", .list), ("cd", .openNode), ("cat", .read), ("pwd", .cwd),
   ("quit", .exit)]

/-- The command of a canonical word. -/
def ofCanonical? (word : String) : Option Command :=
  all.find? (·.word == word)

/-- The command that a word means. -/
def ofWord? (word : String) : Option Command :=
  match aliases.lookup word with
  | some c => some c
  | none => ofCanonical? word

/-- Every command is listed. -/
theorem mem_all (c : Command) : c ∈ all := by
  cases c <;> decide

/-- The canonical word of a command means that command. -/
theorem ofWord?_word (c : Command) : ofWord? c.word = some c := by
  cases c <;> decide

end Command

end Portfolio
