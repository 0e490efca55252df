/-
  File:      Portfolio/Json/Value.lean
  Subject:   JSON documents.

  * `Value`: integers keep every digit and are apart from floating-point
    numbers; an object keeps its fields in the order of the document.
  * `put`: a field that comes again keeps its place and takes the new
    value, so the names of an object are distinct.
  * `isGiven`: null, false, zero and whatever is empty count as not given.
-/
import Portfolio.Decimal.Binary64

namespace Portfolio.Json

/-- A JSON value. -/
inductive Value where
  | null
  | bool (b : Bool)
  | int (n : Int)
  | float (x : Binary64)
  | text (s : String)
  | list (items : List Value)
  | object (fields : List (String × Value))
  deriving Repr, Inhabited

/-- The fields of an object. -/
abbrev Fields := List (String × Value)

namespace Fields

/-- The fields with one more: in the place of the field of the same name,
    or last. -/
def put (name : String) (value : Value) : Fields → Fields
  | [] => [(name, value)]
  | field :: rest =>
    if field.1 = name then (name, value) :: rest else field :: put name value rest

/-- The fields in the order in which a document gives them. -/
def ofList (fields : List (String × Value)) : Fields :=
  fields.foldl (fun done field => put field.1 field.2 done) []

/-- The value of a field. -/
def get? (fields : Fields) (name : String) : Option Value :=
  fields.lookup name

end Fields

/-- The greatest number of digits of an integer that is read or written. -/
def integerLimit : Nat := 4300

namespace Value

/-- The value says something. -/
def isGiven : Value → Bool
  | .null => false
  | .bool b => b
  | .int n => n != 0
  | .float x => !x.isZero
  | .text s => s != ""
  | .list items => !items.isEmpty
  | .object fields => !fields.isEmpty

/-- The value, if there is one and it says something. -/
def given? (v : Option Value) : Option Value :=
  v.filter isGiven

end Value

namespace Fields

/-- The value of a field that is present and says something. -/
def given? (fields : Fields) (name : String) : Option Value :=
  Value.given? (fields.get? name)

end Fields

end Portfolio.Json
