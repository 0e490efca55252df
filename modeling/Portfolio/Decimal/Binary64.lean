/-
  File:      Portfolio/Decimal/Binary64.lean
  Subject:   Floating-point numbers of 64 bits, and the one nearest to a
             decimal.

  * `Binary64`: a number is `mantissa * 2 ^ exponent` with a mantissa below
    2 ^ 53 and an exponent from -1074 on, or infinite, or no number.
  * `ofDecimal`: the number nearest to `digits * 10 ^ scale`; halfway
    between two numbers the even mantissa wins, and what is nearer to
    2 ^ 1024 than to any number is infinite.

  All of it is exact arithmetic on natural numbers.
-/
namespace Portfolio

/-- A floating-point number of 64 bits. -/
inductive Binary64 where
  | notANumber
  | infinite (negative : Bool)
  | finite (negative : Bool) (mantissa : Nat) (exponent : Int)
  deriving DecidableEq, Repr, Inhabited

namespace Binary64

/-- Zero, of either sign. -/
def isZero : Binary64 → Bool
  | .finite _ mantissa _ => mantissa == 0
  | _ => false

/-- The power of a base; one if the exponent is negative. -/
def power (base : Nat) (exponent : Int) : Nat :=
  base.pow exponent.toNat

/-- The quotient, rounded to the nearest integer and to the even one when
    two are equally near. -/
def roundDiv (num den : Nat) : Nat :=
  let quotient := num / den
  let twice := 2 * (num % den)
  if twice < den then quotient
  else if den < twice then quotient + 1
  else quotient + quotient % 2

/-- The greatest `k` with `2 ^ k ≤ num / den`, for a positive quotient. -/
def log2Div (num den : Nat) : Int :=
  let k : Int := (num.log2 : Int) - (den.log2 : Int)
  if den * power 2 k ≤ num * power 2 (-k) then k else k - 1

/-- The number nearest to a quotient. -/
def ofQuotient (negative : Bool) (num den : Nat) : Binary64 :=
  if num = 0 then .finite negative 0 (-1074)
  else
    let exponent := max (-1074) (log2Div num den - 52)
    let mantissa := roundDiv (num * power 2 (-exponent)) (den * power 2 exponent)
    let carried := mantissa == power 2 53
    let exponent := if carried then exponent + 1 else exponent
    if 971 < exponent then .infinite negative
    else .finite negative (if carried then power 2 52 else mantissa) exponent

/-- The number nearest to `digits * 10 ^ scale`. Beyond 310 places before
    the point every decimal is infinite, and beyond 330 places after it
    every decimal is zero; these are settled without the power of ten. -/
def ofDecimal (negative : Bool) (digits : Nat) (scale : Int) : Binary64 :=
  let places : Int := (Nat.toDigits 10 digits).length + scale
  if digits = 0 then .finite negative 0 (-1074)
  else if 310 < places then .infinite negative
  else if places < -330 then .finite negative 0 (-1074)
  else ofQuotient negative (digits * power 10 scale) (power 10 (-scale))

end Binary64

end Portfolio
