/-
  File:      Portfolio/Command/Line.lean
  Subject:   A line that a user types: what is refused, and its tokens.

  * `hasShellFeature`: pipes, redirections, chains and the like are refused
    wherever they stand, inside of quotes too.
  * `tokens`: blanks separate tokens, save between two double quotes. A
    quote that has no partner separates too, and is dropped.
  * `parse`: the first token as it is, and the others without a quote at
    either end.
-/
import Portfolio.Text.Blank
import Portfolio.Text.Find

namespace Portfolio.Command

open Portfolio.Text

/-! ## 1. Refused features -/

/-- The marks of features that the console does not have. -/
def shellFeatures : List String :=
  ["|", ">", "<", "&&", "||", ";", "`", "$"]

/-- Some mark occurs in the line. -/
def hasShellFeature (line : String) : Bool :=
  shellFeatures.any fun mark => occurs mark.toList line.toList

/-! ## 2. Tokens -/

/-- A token that has at least one character. -/
def emit (token : List Char) : List (List Char) :=
  if token.isEmpty then [] else [token.reverse]

/-- The tokens of a line, given the token under way in reverse and whether
    a quote is open. Only a quote with a partner opens. -/
def tokensFrom : Bool → List Char → List Char → List (List Char)
  | _, token, [] => emit token
  | true, token, c :: rest => tokensFrom (c != '"') (c :: token) rest
  | false, token, c :: rest =>
    if c = '"' then
      if rest.contains '"' then tokensFrom true (c :: token) rest
      else emit token ++ tokensFrom false [] rest
    else if isBlank c then emit token ++ tokensFrom false [] rest
    else tokensFrom false (c :: token) rest

/-- The tokens of a line. -/
def tokens (line : String) : List String :=
  (tokensFrom false [] line.toList).map String.ofList

/-! ## 3. The name and the arguments -/

/-- A text without one quote at its start. -/
def dropQuote : List Char → List Char
  | [] => []
  | c :: rest => if c = '"' then rest else c :: rest

/-- A token without one quote at either end. -/
def unquote (token : String) : String :=
  String.ofList (dropQuote (dropQuote token.toList).reverse).reverse

/-- A line in its parts. -/
structure Line where
  name : String
  args : List String
  deriving DecidableEq, Repr

/-- The parts of a line; a line without tokens has an empty name. -/
def parse (line : String) : Line :=
  match tokens line with
  | [] => ⟨"", []⟩
  | name :: args => ⟨name, args.map unquote⟩

end Portfolio.Command
