/-
  File:      Portfolio/Json/Text.lean
  Subject:   The text of a JSON value in a page or a message.

  * `Value.display`: a text as it is, any other value as inside of a list.
  * `Value.inspect`: a text between quotes, a list between brackets, an
    object between braces, with commas and colons.
  * `Value.typeName`: the word for the kind of a value.
-/
import Portfolio.Json.Value
import Portfolio.Decimal.Layout
import Portfolio.Text.Quoted

namespace Portfolio.Json

/-- The text of an integer. One of more than `integerLimit` digits has none in
    the console, but no such integer is read from a document. -/
def integerText (n : Int) : String :=
  String.ofList (Decimal.signed (n < 0) (Nat.toDigits 10 n.natAbs))

mutual

/-- The text of a value as an item of a list. -/
def Value.inspect : Value → String
  | .null => "None"
  | .bool true => "True"
  | .bool false => "False"
  | .int n => integerText n
  | .float x => String.ofList (Decimal.write Decimal.plain x)
  | .text s => Text.quoted s
  | .list items => "[" ++ ", ".intercalate (inspectItems items) ++ "]"
  | .object fields => "\x7b" ++ ", ".intercalate (inspectFields fields) ++ "\x7d"

/-- The texts of the items of a list. -/
def inspectItems : List Value → List String
  | [] => []
  | v :: rest => v.inspect :: inspectItems rest

/-- The texts of the fields of an object. -/
def inspectFields : List (String × Value) → List String
  | [] => []
  | (name, v) :: rest => (Text.quoted name ++ ": " ++ v.inspect) :: inspectFields rest

end

/-- The text of a value on its own. -/
def Value.display : Value → String
  | .text s => s
  | v => v.inspect

/-- The word for the kind of a value. -/
def Value.typeName : Value → String
  | .null => "NoneType"
  | .bool _ => "bool"
  | .int _ => "int"
  | .float _ => "float"
  | .text _ => "str"
  | .list _ => "list"
  | .object _ => "dict"

end Portfolio.Json
