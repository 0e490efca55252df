/-
  File:      Portfolio/Content/Source.lean
  Subject:   Where content comes from: a path, and what is read there.

  * `cleanPath`: the path as messages name it.
  * `Reader`: what a path leads to.
  * `Folder`: the files of the current directory, as a reader.
  * `plainLines`: every kind of line end becomes a newline.
-/
import Portfolio.Error
import Portfolio.Path

namespace Portfolio.Content

/-! ## 1. Paths -/

/-- The slashes that a cleaned path keeps at its start: two stay two, any
    other number of them is one. -/
def rootOf (path : List Char) : List Char :=
  let slashes := path.takeWhile (· == '/')
  if slashes.length = 0 then [] else if slashes.length = 2 then ['/', '/'] else ['/']

/-- The names of a path; empty ones and dots say nothing. -/
def partsOf (path : String) : List String :=
  (Path.segments path).filter (· ≠ ".")

/-- The path without what says nothing; a path that says nothing at all is
    a dot. -/
def cleanPath (path : String) : String :=
  let text := String.ofList (rootOf path.toList) ++ "/".intercalate (partsOf path)
  if text = "" then "." else text

/-! ## 2. Reading -/

/-- What a path leads to: the bytes of a file, or why there are none. -/
abbrev Reader := String → Except ReadFault ByteArray

/-- The files of the current directory. It holds no other directory. -/
abbrev Folder := List (String × ByteArray)

/-- The greatest number of bytes in a name. -/
def nameLimit : Nat := 255

/-- The least number of bytes that is too many for a path. -/
def pathLimit : Nat := 4096

/-- What the names of a path lead to. `inside` says that they are looked up
    in the current directory, not in one above it. -/
def Folder.follow (folder : Folder) : Bool → List String → Except ReadFault ByteArray
  | _, [] => .error .directory
  | inside, name :: rest =>
    if name = ".." then follow folder false rest
    else if nameLimit < name.utf8ByteSize then .error .nameTooLong
    else
      match (if inside then folder.lookup name else none) with
      | none => .error .missing
      | some bytes => if rest.isEmpty then .ok bytes else .error .belowFile

/-- The current directory as a reader. Nothing is known of what lies
    elsewhere, save that the root is a directory. -/
def Folder.read (folder : Folder) : Reader := fun path =>
  if pathLimit ≤ path.utf8ByteSize then .error .nameTooLong
  else folder.follow (!Path.isAbsolute path) (partsOf path)

/-! ## 3. Text -/

/-- The text with a newline for every line end, be it a carriage return, a
    newline or both together. -/
def plainLines : List Char → List Char
  | [] => []
  | '\r' :: '\n' :: rest => '\n' :: plainLines rest
  | '\r' :: rest => '\n' :: plainLines rest
  | c :: rest => c :: plainLines rest

end Portfolio.Content
