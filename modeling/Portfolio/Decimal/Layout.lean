/-
  File:      Portfolio/Decimal/Layout.lean
  Subject:   How a floating-point number is written out.

  * `Layout`: the decisions of a notation, in one record.
  * `plain`: the notation of this program. A first digit of weight 10 ^ -4
    up to 10 ^ 15 stands in place, with a point and at least one digit
    after it; any other number has an exponent with a sign and at least two
    digits.
-/
import Portfolio.Decimal.Shortest

namespace Portfolio.Decimal

/-- The decisions of a notation for floating-point numbers. -/
structure Layout where
  /-- The least weight of a first digit that stands in place. -/
  leastLead : Int
  /-- The greatest weight of a first digit that stands in place. -/
  greatestLead : Int
  /-- What follows an integer that stands in place. -/
  wholeEnding : List Char
  /-- The least number of digits of an exponent. -/
  exponentWidth : Nat
  /-- How an infinite number is written. -/
  infinite : List Char
  /-- How "no number" is written. -/
  notANumber : List Char

/-- The notation of this program. -/
def plain : Layout where
  leastLead := -4
  greatestLead := 15
  wholeEnding := ['.', '0']
  exponentWidth := 2
  infinite := ['i', 'n', 'f']
  notANumber := ['n', 'a', 'n']

/-- Digits in place. -/
def inPlace (l : Layout) (d : Digits) : List Char :=
  if d.lead < 0 then '0' :: '.' :: List.replicate ((-d.lead).toNat - 1) '0' ++ d.digits
  else
    let whole := d.lead.toNat + 1
    if d.digits.length ≤ whole then
      d.digits ++ List.replicate (whole - d.digits.length) '0' ++ l.wholeEnding
    else d.digits.take whole ++ '.' :: d.digits.drop whole

/-- Digits with an exponent. -/
def withExponent (l : Layout) (d : Digits) : List Char :=
  let size := Nat.toDigits 10 d.lead.natAbs
  d.digits.take 1 ++ (if 1 < d.digits.length then '.' :: d.digits.drop 1 else []) ++
    'e' :: (if d.lead < 0 then '-' else '+') ::
      List.replicate (l.exponentWidth - size.length) '0' ++ size

/-- A minus sign before a negative number. -/
def signed (negative : Bool) (text : List Char) : List Char :=
  if negative then '-' :: text else text

/-- A floating-point number written out. -/
def write (l : Layout) : Binary64 → List Char
  | .notANumber => l.notANumber
  | .infinite negative => signed negative l.infinite
  | .finite negative mantissa exponent =>
    let d := if mantissa = 0 then ⟨['0'], 0⟩ else shortest mantissa exponent
    signed negative
      (if l.leastLead ≤ d.lead ∧ d.lead ≤ l.greatestLead then inPlace l d else withExponent l d)

end Portfolio.Decimal
