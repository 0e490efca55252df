/-
  File:      Portfolio/Filesystem.lean
  Subject:   The filesystem: a tree that is built once, and its queries.

  * `populate` builds the tree; once it has succeeded, every further
    call changes nothing.
  * Before that, every query fails.
  * A path is seen from a current directory; `require` and
    `requireDirectory` say what is missing in the words of that path.
-/
import Portfolio.Node.Drawing
import Portfolio.Search
import Portfolio.Site.Build
import Portfolio.Text.Blank

namespace Portfolio

open Json (Value)

/-- A tree, if it has been built, and the profile to build it with. -/
structure Filesystem where
  profile : Profile := {}
  tree : Option Node := none
  deriving Repr, Inhabited

/-- What a directory shows of one of its nodes. -/
structure DirectoryEntry where
  name : String
  path : String
  isDirectory : Bool
  deriving DecidableEq, Repr

/-- The word for the kind of an entry. -/
def DirectoryEntry.kind (e : DirectoryEntry) : String :=
  if e.isDirectory then "directory" else "file"

/-- The order of entries: directories first, then by name. -/
def DirectoryEntry.le (a b : DirectoryEntry) : Bool :=
  if a.isDirectory = b.isDirectory then a.name ≤ b.name else a.isDirectory

namespace Filesystem

/-! ## 1. Building the tree -/

/-- What the log says about a tree that has been built. -/
def initializedEntry : Log.Entry where
  level := .info
  source := "foliofs.vfs"
  text := "Virtual filesystem initialized"

/-- The filesystem with its tree. One that has a tree stays as it is. -/
def populate (fs : Filesystem) (records : List Record) :
    Except DataFault (Site.Built Filesystem) :=
  match fs.tree with
  | some _ => .ok ⟨fs, []⟩
  | none => do
    let built ← Site.build fs.profile records
    return ⟨{ fs with tree := some built.result }, built.log ++ [initializedEntry]⟩

/-- A new filesystem with its tree. -/
def ofRecords (profile : Profile) (records : List Record) :
    Except DataFault (Site.Built Filesystem) :=
  populate { profile } records

/-- The tree has been built. -/
def isInitialized (fs : Filesystem) : Bool :=
  fs.tree.isSome

/-! ## 2. Resolving paths -/

/-- The root of the tree. -/
def root (fs : Filesystem) : Except ConsoleError Node :=
  match fs.tree with
  | some root => .ok root
  | none => .error .notInitialized

/-- The node at a path, if there is one. -/
def resolve (fs : Filesystem) (path : Option String) (cwd : String) :
    Except ConsoleError (Option Node) := do
  let root ← fs.root
  return root.descend (Path.segments (Path.resolve path cwd))

/-- The node at a path. -/
def require (fs : Filesystem) (path : Option String) (cwd : String) :
    Except ConsoleError Node := do
  match ← fs.resolve path cwd with
  | some n => return n
  | none => throw (.pathNotFound path)

/-- The directory at a path. -/
def requireDirectory (fs : Filesystem) (path : Option String) (cwd : String) :
    Except ConsoleError Node := do
  let n ← fs.require path cwd
  if n.isDirectory then return n else throw (.notADirectory path)

/-! ## 3. Queries -/

/-- Something is at the path. -/
def exists? (fs : Filesystem) (path : Option String) (cwd : String) :
    Except ConsoleError Bool := do
  return (← fs.resolve path cwd).isSome

/-- A directory is at the path. -/
def isDirectory (fs : Filesystem) (path : Option String) (cwd : String) :
    Except ConsoleError Bool := do
  return (← fs.resolve path cwd).any Node.isDirectory

/-- A file is at the path. -/
def isFile (fs : Filesystem) (path : Option String) (cwd : String) :
    Except ConsoleError Bool := do
  return (← fs.resolve path cwd).any (!·.isDirectory)

/-- What a node shows in its directory. -/
def entryOf (n : Node) : DirectoryEntry where
  name := n.name
  path := n.path
  isDirectory := n.isDirectory

/-- The entries of a directory, in order. -/
def list (fs : Filesystem) (path : Option String) (cwd : String) :
    Except ConsoleError (List DirectoryEntry) := do
  let directory ← fs.requireDirectory path cwd
  return (directory.children.map entryOf).mergeSort DirectoryEntry.le

/-- The text of the file at a path. -/
def contentAt (fs : Filesystem) (path : Option String) (cwd : String) :
    Except ConsoleError String := do
  let n ← fs.require path cwd
  match n.content? with
  | some content => return content
  | none => throw (.notAFile path)

/-- The node at a path and all below it, with their paths. -/
def walk (fs : Filesystem) (path : Option String) (cwd : String) :
    Except ConsoleError (List (String × Node)) := do
  return (← fs.require path cwd).walk

/-- The files that hold a keyword. -/
def search (fs : Filesystem) (keyword : String) : Except ConsoleError (List Search.Hit) := do
  let nodes ← fs.walk (some "/") "/"
  if Text.allBlank keyword.toList then throw .blankKeyword
  return Search.hits keyword nodes

/-- The drawing of the node at a path, down to a depth. -/
def drawing (fs : Filesystem) (path : Option String) (depth : Int) (cwd : String) :
    Except ConsoleError String := do
  if depth < 0 then throw .invalidDepth
  let n ← fs.require path cwd
  return "\n".intercalate (n.drawing depth.toNat)

/-! ## 4. Projects -/

/-- The id that a directory carries. -/
def ownId? : Node → Option Value
  | .directory _ _ _ id => match id with
    | .null => none
    | id => some id
  | .file .. => none

/-- The name of the project directory that a path leads into. -/
def projectNameOf? (path : String) : Option String :=
  match Path.segments path with
  | first :: name :: _ => if first = "projects" then some name else none
  | _ => none

/-- The id of the project that the node at a path belongs to. -/
def projectIdOf (fs : Filesystem) (path : Option String) (cwd : String) :
    Except ConsoleError (Option Value) := do
  match ← fs.resolve path cwd with
  | none => return none
  | some n =>
    match ownId? n with
    | some id => return some id
    | none =>
      match projectNameOf? n.path with
      | none => return none
      | some name =>
        return (← fs.resolve (some (Path.join Site.projectsPath name)) "/").bind ownId?

/-- The path of the first project whose id has the same text. The projects
    are looked for among the children of the root, so it cannot be a file. -/
def pathOfProject (fs : Filesystem) (id : Value) : Except Error (Option String) := do
  let root ← fs.root.mapError .console
  if !root.isDirectory then throw (.fault .rootIsFile)
  match root.child? "projects" with
  | some (.directory _ _ projects _) =>
    let wanted := String.ofList (Text.strip id.display.toList)
    return (projects.findSome? fun
      | .directory _ path _ own => if own.display = wanted then some path else none
      | .file .. => none)
  | _ => return none

end Filesystem

end Portfolio
