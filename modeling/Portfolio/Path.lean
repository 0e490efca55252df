/-
  File:      Portfolio/Path.lean
  Subject:   Paths of the tree.

  * `segments`: the names between the slashes; empty ones are dropped.
  * `walk`: names are entered one by one, `.` stays and `..` goes back,
    but never above the root.
  * `resolve`: the absolute form of a path as seen from a directory.
  * `join`: the path of a child.
-/
namespace Portfolio.Path

/-- The names between the slashes. -/
def segments (path : String) : List String :=
  ((path.toList.splitOn '/').filter (!·.isEmpty)).map String.ofList

/-- The path from the root through the given names. -/
def render (names : List String) : String :=
  "/" ++ "/".intercalate names

/-- One step from where the names lead. -/
def step (names : List String) (name : String) : List String :=
  if name = "." then names
  else if name = ".." then names.dropLast
  else names ++ [name]

/-- Where the names of a path lead from the names of another one. -/
def walk (start names : List String) : List String :=
  names.foldl step start

/-- A path that starts at the root. -/
def isAbsolute (path : String) : Bool :=
  path.toList.head? == some '/'

/-- The path that is meant: without one, the current directory. -/
def orElse (path : Option String) (cwd : String) : String :=
  match path with
  | none => cwd
  | some path => if path = "" then cwd else path

/-- The absolute form of a path as seen from `cwd`. The names of `cwd`
    itself are taken as they are. -/
def resolve (path : Option String) (cwd : String) : String :=
  let path := orElse path cwd
  render (walk (if isAbsolute path then [] else segments cwd) (segments path))

/-- The path of the child `name` of the directory at `parent`. -/
def join (parent name : String) : String :=
  if parent = "/" then "/" ++ name else parent ++ "/" ++ name

end Portfolio.Path
