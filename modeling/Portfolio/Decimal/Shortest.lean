/-
  File:      Portfolio/Decimal/Shortest.lean
  Subject:   The fewest digits that read back as the same number.

  A number stands for the interval of the reals that round to it. For one
  digit, two digits and so on up to seventeen, the two neighbours of the
  number on that decimal grid are tried: the first grid with a neighbour in
  the interval wins, and of two such neighbours the nearer one; of two that
  are equally near, the one with the even digit.

  * `Digits`: the digits, and the power of ten of the first one.
  * `shortest`: those digits for a positive number.
-/
import Portfolio.Decimal.Binary64

namespace Portfolio.Decimal

open Binary64 (power)

/-- Digits in scientific notation: the first digit has the weight
    `10 ^ lead`, and no zero stands at the end. -/
structure Digits where
  digits : List Char
  lead : Int
  deriving DecidableEq, Repr

/-- A positive real as a quotient, with the interval of the reals that
    round to it over the same denominator. -/
structure Interval where
  num : Nat
  low : Nat
  high : Nat
  den : Nat
  closed : Bool
  deriving Repr

/-- The interval of `mantissa * 2 ^ exponent`. Below a power of two the
    numbers lie twice as close; the ends belong to an even mantissa. -/
def intervalOf (mantissa : Nat) (exponent : Int) : Interval :=
  let up := power 2 exponent
  let below := if mantissa = power 2 52 ∧ -1074 < exponent then 1 else 2
  { num := 4 * mantissa * up
    low := (4 * mantissa - below) * up
    high := (4 * mantissa + 2) * up
    den := 4 * power 2 (-exponent)
    closed := mantissa % 2 == 0 }

/-- How many digits a number has. -/
def digitCount (n : Nat) : Nat :=
  (Nat.toDigits 10 n).length

/-- The power of ten of the first digit of a positive quotient. -/
def leadOf (num den : Nat) : Int :=
  if den ≤ num then (digitCount (num / den) : Int) - 1
  else -(digitCount ((den - 1) / num) : Int)

/-- The digits of `n * 10 ^ scale`, for a positive `n`. -/
def digitsOf (n : Nat) (scale : Int) : Digits :=
  let digits := Nat.toDigits 10 n
  { digits := (digits.reverse.dropWhile (· == '0')).reverse
    lead := scale + digits.length - 1 }

/-- The point `n * 10 ^ scale` of a grid lies in the interval. -/
def inInterval (i : Interval) (n : Nat) (scale : Int) : Bool :=
  let point := n * power 10 scale * i.den
  let low := i.low * power 10 (-scale)
  let high := i.high * power 10 (-scale)
  if i.closed then low ≤ point && point ≤ high else low < point && point < high

/-- The better neighbour on the grid of `10 ^ scale`, if one lies in the
    interval. -/
def onGrid? (i : Interval) (scale : Int) : Option Digits :=
  let num := i.num * power 10 (-scale)
  let den := i.den * power 10 scale
  let below := num / den
  let twice := 2 * (num % den)
  let first := if twice < den ∨ (twice = den ∧ below % 2 = 0) then below else below + 1
  let second := if first = below then below + 1 else below
  if inInterval i first scale then some (digitsOf first scale)
  else if inInterval i second scale then some (digitsOf second scale)
  else none

/-- The fewest digits that read back as `mantissa * 2 ^ exponent`, for a
    positive mantissa. Seventeen digits always do. -/
def shortest (mantissa : Nat) (exponent : Int) : Digits :=
  let i := intervalOf mantissa exponent
  let lead := leadOf i.num i.den
  match (List.range 17).findSome? fun (n : Nat) => onGrid? i (lead - n) with
  | some digits => digits
  | none => digitsOf (i.num / i.den) 0

end Portfolio.Decimal
