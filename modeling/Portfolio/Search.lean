/-
  File:      Portfolio/Search.lean
  Subject:   Searching the text of files.

  * `snippet`: what surrounds a match, with dots where text is left out.
  * `Hit`: a file that matches, with its snippet.
  * `hits`: the files whose text holds the keyword, whatever the case of
    the letters, in the order of the walk. The offset is found in the
    lower-case text and the snippet is cut from the text as it is.
-/
import Portfolio.Node
import Portfolio.Text.Case
import Portfolio.Text.Find

namespace Portfolio.Search

open Portfolio.Text

/-! ## 1. Snippets -/

/-- The characters shown on either side of a match. -/
def defaultRadius : Int := 50

/-- What stands for text that is left out. -/
def dots : List Char := ['.', '.', '.']

/-- The text from `radius` characters before a match to as many after it. -/
def snippetChars (content : List Char) (start length radius : Int) : List Char :=
  let first := max 0 (start - radius)
  let last := min (content.length : Int) (start + length + radius)
  (if 0 < first then dots else []) ++ slice content first last ++
    (if last < content.length then dots else [])

/-- The snippet of a text. -/
def snippet (content : String) (start length radius : Int) : String :=
  String.ofList (snippetChars content.toList start length radius)

/-! ## 2. Hits -/

/-- A file that matches. -/
structure Hit where
  path : String
  snippet : String
  kind : String := "file"
  deriving DecidableEq, Repr

/-- The hit of one node, if it is a file that holds the keyword. The
    keyword is in lower case. -/
def hitOf (keyword : List Char) (path : String) (n : Node) : Option Hit :=
  match n with
  | .directory .. => none
  | .file _ _ content _ =>
    if content = "" then none
    else
      (indexOf? keyword (lower content.toList)).map fun offset =>
        { path, snippet := snippet content offset keyword.length defaultRadius }

/-- The hits among nodes with their paths. -/
def hits (keyword : String) (nodes : List (String × Node)) : List Hit :=
  nodes.filterMap fun n => hitOf (lower keyword.toList) n.1 n.2

end Portfolio.Search
