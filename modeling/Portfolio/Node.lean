/-
  File:      Portfolio/Node.lean
  Subject:   The tree: files and directories, each with its name and path.

  * The children of a directory stand in the order in which they came, and
    no two bear the same name: `place` puts a node into the place of the
    one it replaces.
  * `child?`, `descend`: looking up a name, and one name after the other.
  * `walk`: every node with its path, a directory before what is below it.
-/
import Portfolio.Json.Value

namespace Portfolio

open Json (Value)

/-- A file or a directory. A directory that belongs to a project carries
    the id of the project; `null` is no id. -/
inductive Node where
  | file (name path content : String) (url : Option String)
  | directory (name path : String) (children : List Node) (projectId : Value)
  deriving Repr, Inhabited

namespace Node

/-! ## 1. Parts of a node -/

/-- The name in its directory. -/
def name : Node → String
  | .file name _ _ _ => name
  | .directory name _ _ _ => name

/-- The absolute path. -/
def path : Node → String
  | .file _ path _ _ => path
  | .directory _ path _ _ => path

/-- A directory, not a file. -/
def isDirectory : Node → Bool
  | .file .. => false
  | .directory .. => true

/-- The nodes of a directory; a file has none. -/
def children : Node → List Node
  | .file .. => []
  | .directory _ _ children _ => children

/-- The text of a file; a directory has none. -/
def content? : Node → Option String
  | .file _ _ content _ => some content
  | .directory .. => none

/-- The word for the kind of a node. -/
def kind (n : Node) : String :=
  if n.isDirectory then "directory" else "file"

/-! ## 2. Looking up names -/

/-- The node of the given name. -/
def named? (nodes : List Node) (name : String) : Option Node :=
  nodes.find? (·.name == name)

/-- The child of the given name. -/
def child? (n : Node) (name : String) : Option Node :=
  named? n.children name

/-- The node that is reached by one name after the other. -/
def descend (n : Node) : List String → Option Node
  | [] => some n
  | name :: rest =>
    match n.child? name with
    | none => none
    | some child => child.descend rest

/-! ## 3. Adding a child -/

/-- The nodes with one more: in the place of the node of the same name, or
    last. -/
def place (n : Node) : List Node → List Node
  | [] => [n]
  | m :: rest => if m.name = n.name then n :: rest else m :: place n rest

/-- The nodes placed one after the other. -/
def placeAll (nodes : List Node) : List Node :=
  nodes.foldl (fun placed n => place n placed) []

/-! ## 4. Walking the tree -/

mutual

/-- The node and all below it, with their paths. -/
def walk : Node → List (String × Node)
  | .file name path content url => [(path, .file name path content url)]
  | .directory name path children id =>
    (path, .directory name path children id) :: walkAll children

/-- All nodes of a list and all below them, with their paths. -/
def walkAll : List Node → List (String × Node)
  | [] => []
  | n :: rest => n.walk ++ walkAll rest

end

end Node

end Portfolio
