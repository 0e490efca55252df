/-
  File:      Portfolio/Program/Terminal.lean
  Subject:   The terminal that texts are printed on.

  * `Style`: what is asked of the terminal when a text is printed.
  * `Terminal`: what a text becomes in a style, or why it cannot be printed.
    It is a parameter of the program, for it is not a part of it.
  * `Terminal.folding`: one that breaks what may be broken to its width, and
    knows no pictures.
-/
import Portfolio.Error
import Portfolio.Text.Columns

namespace Portfolio.Program

/-! ## 1. Terminals -/

/-- How a text is printed. -/
structure Style where
  /-- The text is not broken, however wide it is. -/
  softWrap : Bool
  /-- Names between colons may stand for pictures. -/
  pictures : Bool
  deriving DecidableEq, Repr

/-- The text is left as it is. -/
def Style.verbatim : Style :=
  ⟨true, false⟩

/-- The text is not broken, but pictures may be put in. -/
def Style.unbroken : Style :=
  ⟨true, true⟩

/-- The text is broken to the width of the terminal, and pictures may be put
    in. -/
def Style.broken : Style :=
  ⟨false, true⟩

/-- A terminal. -/
structure Terminal where
  /-- How wide a text is. -/
  columns : String → Nat
  /-- Whether a name between colons stands for a picture. -/
  knows : String → Bool
  /-- What is written for a text, line ends included. -/
  put : Style → String → Except DataFault String

/-- The width of the terminal. -/
def terminalWidth : Nat := 80

/-! ## 2. A terminal that folds -/

/-- A text broken to the width of the terminal. -/
def breakText (text : String) : Except DataFault String :=
  match (text.toList.splitOn '\n').mapM (Text.fold? terminalWidth) with
  | none => .error .uncuttable
  | some lines => .ok (String.ofList (['\n'].intercalate lines.flatten))

/-- The terminal that breaks a text between its words, if it may. -/
def Terminal.folding : Terminal where
  columns text := Text.columns text.toList
  knows _ := false
  put style text :=
    (if style.softWrap then .ok text else breakText text).map (· ++ "\n")

end Portfolio.Program
