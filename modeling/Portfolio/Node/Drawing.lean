/-
  File:      Portfolio/Node/Drawing.lean
  Subject:   The tree drawn with lines.

  * `label`: a directory ends in a slash.
  * Each node takes a line: for every directory on the way to it a bar if
    more nodes follow there, else blanks; then its connector; then its label.
  * `drawing`: the lines down to a depth.
-/
import Portfolio.Node

namespace Portfolio.Node

/-- The label of a node. -/
def label : Node → String
  | .file name _ _ _ => name
  | .directory name path _ _ => if path = "/" then "/" else name ++ "/"

/-- What leads to a label. -/
def connector (last : Bool) : String :=
  if last then "└── " else "├── "

/-- What stands below a connector. -/
def extension (last : Bool) : String :=
  if last then "    " else "│   "

/-- The nodes, the last one marked. -/
def markLast : List Node → List (Node × Bool)
  | [] => []
  | [n] => [(n, true)]
  | n :: rest => (n, false) :: markLast rest

/-- The lines below a directory whose children are `nodes`, down to
    `depth`, each after `lead`. -/
def drawingBelow : Nat → String → List Node → List String
  | 0, _, _ => []
  | depth + 1, lead, nodes =>
    (markLast nodes).flatMap fun (n, last) =>
      (lead ++ connector last ++ n.label) :: drawingBelow depth (lead ++ extension last) n.children

/-- The lines of a node and of what is below it, down to `depth`. -/
def drawing (n : Node) (depth : Nat) : List String :=
  n.label :: drawingBelow depth "" n.children

end Portfolio.Node
