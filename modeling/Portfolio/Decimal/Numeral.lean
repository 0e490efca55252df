/-
  File:      Portfolio/Decimal/Numeral.lean
  Subject:   Reading an integer that a user has typed.

  Blanks around it, one sign, the decimal digits of any script, and single
  underscores between digits are accepted; more than 4300 digits are not.
  The four separators of ASCII are blanks elsewhere but not around a
  numeral.
-/
import Portfolio.Text.Blank
import Portfolio.Text.Digit

namespace Portfolio.Decimal

open Portfolio.Text

/-- The greatest number of digits that is read. -/
def digitLimit : Nat := 4300

/-- The blanks that may stand around a numeral. -/
def isNumeralBlank (c : Char) : Bool :=
  isBlank c && !(0x1c ≤ c.toNat && c.toNat ≤ 0x1f)

/-- The values of the digits, underscores left out; `afterDigit` says that
    a digit comes right before, so that an underscore may follow. -/
def digitValues? : Bool → List Char → Option (List Nat)
  | afterDigit, [] => if afterDigit then some [] else none
  | afterDigit, c :: rest =>
    if c = '_' then if afterDigit then digitValues? false rest else none
    else
      match digitValue? c with
      | some d => (digitValues? true rest).map (d :: ·)
      | none => none

/-- The sign and what follows it. -/
def splitSign : List Char → Bool × List Char
  | '-' :: rest => (true, rest)
  | '+' :: rest => (false, rest)
  | s => (false, s)

/-- The integer that a text writes. -/
def readInteger (s : String) : Option Int :=
  let bare := ((s.toList.dropWhile isNumeralBlank).reverse.dropWhile isNumeralBlank).reverse
  let (negative, digits) := splitSign bare
  match digitValues? false digits with
  | none => none
  | some values =>
    if digitLimit < values.length then none
    else some (if negative then -(digitsValue values : Int) else digitsValue values)

end Portfolio.Decimal
