/-
  File:      Portfolio/Command/Registry.lean
  Subject:   The registry: one handler for each command.

  * `enter`: a command can be registered once; a second time is refused,
    and so is a word that is no command. A refusal changes nothing.
  * `command`: the same, with the handler given last.
  * `register`: the registry that is left.
  * `get?`: the entry of a command.
  * The entries stand in the order of registration.

  The kind of handler is left open.
-/
import Portfolio.Command.Name
import Portfolio.Text.Quoted

namespace Portfolio

/-- A registered command. -/
structure RegistryEntry (α : Type) where
  command : Command
  handler : α
  description : String := ""
  deriving DecidableEq, Repr

/-- The registered commands, in the order of registration. -/
structure Registry (α : Type) where
  entries : List (RegistryEntry α) := []
  deriving DecidableEq, Repr

/-- Why a registration is refused. -/
inductive RegistryError where
  | notACommand (word : String)
  | alreadyRegistered (command : Command)
  deriving DecidableEq, Repr

/-- The words for a refused registration. -/
def RegistryError.message : RegistryError → String
  | .notACommand word => Text.quoted word ++ " is not a valid CommandName"
  | .alreadyRegistered command =>
    "Command " ++ Text.quoted command.word ++ " is already registered"

/-- What is done to a registry and can be refused. A refusal does not undo what was done
    before it. -/
abbrev RegistryM (α : Type) : Type → Type :=
  ExceptT RegistryError (StateM (Registry α))

namespace Registry

variable {α : Type}

/-- The entry of a command. -/
def find? (r : Registry α) (command : Command) : Option (RegistryEntry α) :=
  r.entries.find? (·.command == command)

/-- The entry under a canonical word. -/
def get? (r : Registry α) (word : String) : Option (RegistryEntry α) :=
  (Command.ofCanonical? word).bind r.find?

/-- Registers a handler for a command, given by its canonical word, and gives it back. -/
def enter (word : String) (handler : α) (description : String) : RegistryM α α := do
  match Command.ofCanonical? word with
  | none => throw (.notACommand word)
  | some command =>
    if ((← get).find? command).isSome then throw (.alreadyRegistered command)
    modify fun r => ⟨r.entries ++ [⟨command, handler, description⟩]⟩
    return handler

/-- A registration that waits for its handler. -/
def command (word description : String) : α → RegistryM α α :=
  fun handler => enter word handler description

/-- The registry with one more command. -/
def register (r : Registry α) (word : String) (handler : α) (description : String) :
    Except RegistryError (Registry α) :=
  match (enter word handler description).run.run r with
  | (.error e, _) => .error e
  | (.ok _, r) => .ok r

/-- The handlers, each with its command. -/
def handlers (r : Registry α) : List (Command × α) :=
  r.entries.map fun e => (e.command, e.handler)

end Registry

end Portfolio
