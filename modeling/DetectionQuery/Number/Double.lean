/-!
Double-precision numbers by their exact value.

A finite double is a sign, a mantissa below 2^53 and a power of two not below 2^-1074; a mantissa
below 2^52 occurs with the least power only. `Double.ofDecimal` is the double nearest to a decimal,
a tie going to the even mantissa, found in exact arithmetic.
-/

namespace DetectionQuery

/-- The number `± mantissa · 2 ^ exponent`. Both signs of zero are kept. -/
structure FiniteDouble where
  negative : Bool
  mantissa : Nat
  exponent : Int
deriving DecidableEq, Repr

/-- A double-precision number. -/
inductive Double where
  | nan
  | infinite (negative : Bool)
  | finite (value : FiniteDouble)
deriving DecidableEq, Repr

namespace FiniteDouble

/-- The power of two of the smallest positive double. -/
def leastExponent : Int := -1074

/-- The greatest power of two that a finite double has. -/
def greatestExponent : Int := 971

/-- The least mantissa above the range of the smallest doubles. -/
def leastNormal : Nat := Nat.pow 2 52

def zero (negative : Bool) : FiniteDouble :=
  ⟨negative, 0, leastExponent⟩

end FiniteDouble

/-- The quotient rounded to the nearest whole number, a tie going to the even one. -/
def roundedQuotient (numerator denominator : Nat) : Nat :=
  let quotient := numerator / denominator
  let twice := 2 * (numerator % denominator)
  if twice < denominator then quotient
  else if denominator < twice then quotient + 1
  else quotient + quotient % 2

namespace Double

open FiniteDouble

/-- The double nearest to `numerator / denominator`, both positive. -/
def ofRatio (negative : Bool) (numerator denominator : Nat) : Double :=
  -- The value lies above `2 ^ (size - 1)` and below `2 ^ (size + 1)`.
  let size : Int := (numerator.log2 : Int) - denominator.log2
  let reaches : Bool :=
    if 0 ≤ size then denominator * Nat.pow 2 size.toNat ≤ numerator
    else denominator ≤ numerator * Nat.pow 2 (-size).toNat
  let exponent := max (if reaches then size - 52 else size - 53) leastExponent
  let mantissa :=
    if 0 ≤ exponent then roundedQuotient numerator (denominator * Nat.pow 2 exponent.toNat)
    else roundedQuotient (numerator * Nat.pow 2 (-exponent).toNat) denominator
  -- Rounding up may carry into one bit more than a mantissa has.
  let carried := mantissa = 2 * leastNormal
  let mantissa := if carried then leastNormal else mantissa
  let exponent := if carried then exponent + 1 else exponent
  if greatestExponent < exponent then .infinite negative
  else .finite ⟨negative, mantissa, exponent⟩

/-- The double nearest to `± digits · 10 ^ power`. Decimals far outside the range of doubles are
told apart by their number of digits, before any large power is taken. -/
def ofDecimal (negative : Bool) (digits : Nat) (power : Int) : Double :=
  let size := power + (Nat.toDigits 10 digits).length
  if digits = 0 ∨ size < -340 then .finite (zero negative)
  else if 320 < size then .infinite negative
  else if 0 ≤ power then ofRatio negative (digits * Nat.pow 10 power.toNat) 1
  else ofRatio negative digits (Nat.pow 10 (-power).toNat)

/-- Numerical equality, except that the undefined number equals itself: the two zeros are one
number. -/
def same : Double → Double → Bool
  | .finite a, .finite b => a = b || (a.mantissa = 0 && b.mantissa = 0)
  | a, b => a = b

end Double

end DetectionQuery
