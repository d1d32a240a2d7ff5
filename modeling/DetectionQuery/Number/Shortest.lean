import DetectionQuery.Number.Double

/-!
The shortest decimal of a finite double.

Every real number in a certain interval around a double is rounded to it. Of the decimals in that
interval, `FiniteDouble.shortest` takes one with the fewest digits and, among those, the one nearest
to the double; of two that are equally near, the even one. The two neighbours of the double on the
grid of n-digit decimals are tested for n = 1, 2, … in exact arithmetic; seventeen digits always
suffice.
-/

namespace DetectionQuery

/-- The decimal `digits · 10 ^ power`. -/
structure Decimal where
  digits : Nat
  power : Int
deriving DecidableEq, Repr

/-- A positive value and the interval of reals that are rounded to it, as numerators over one
denominator. -/
structure RoundingInterval where
  lower : Nat
  value : Nat
  upper : Nat
  denominator : Nat
  /-- Whether the ends themselves are rounded to the value. -/
  closed : Bool

namespace RoundingInterval

def scaled (interval : RoundingInterval) (factor : Nat) : RoundingInterval :=
  { interval with
    lower := interval.lower * factor
    value := interval.value * factor
    upper := interval.upper * factor }

/-- Whether `point / denominator` is rounded to the value. -/
def holds (interval : RoundingInterval) (point : Nat) : Bool :=
  if interval.closed then interval.lower ≤ point && point ≤ interval.upper
  else interval.lower < point && point < interval.upper

/-- Of the two multiples of `10 ^ power` next to the value, the nearer one in the interval; of two
that are equally near, the even one. -/
def neighbour? (interval : RoundingInterval) (power : Int) : Option Decimal :=
  let step :=
    if 0 ≤ power then interval.denominator * Nat.pow 10 power.toNat else interval.denominator
  let interval := if 0 ≤ power then interval else interval.scaled (Nat.pow 10 (-power).toNat)
  let below := interval.value / step
  let rest := interval.value % step
  match interval.holds (below * step), interval.holds ((below + 1) * step) with
  | true, true =>
    let isBelow := 2 * rest < step || (2 * rest = step && below % 2 = 0)
    some ⟨if isBelow then below else below + 1, power⟩
  | true, false => some ⟨below, power⟩
  | false, true => some ⟨below + 1, power⟩
  | false, false => none

/-- The least `size` with `value < 10 ^ size`, counted down from `size` while the value is below the
next smaller power. -/
def sizeBelow (interval : RoundingInterval) (size : Int) : Nat → Int
  | 0 => size
  | fuel + 1 =>
    if interval.value * Nat.pow 10 (1 - size).toNat < interval.denominator
    then sizeBelow interval (size - 1) fuel
    else size

/-- The number of digits before the decimal point; for a value below one, zero less the number of
zeros after the point. -/
def size (interval : RoundingInterval) : Int :=
  let whole := interval.value / interval.denominator
  if whole = 0 then interval.sizeBelow 0 330
  else (Nat.toDigits 10 whole).length

/-- The point in the interval of the first grid, from `count` digits on, that has one. The power of
ten above the value is a point of every grid and is given by its one digit. -/
def search (interval : RoundingInterval) (size : Int) (count : Nat) : Nat → Decimal
  | 0 => ⟨0, 0⟩
  | fuel + 1 =>
    match interval.neighbour? (size - count) with
    | some found => if found.digits = Nat.pow 10 count then ⟨1, size⟩ else found
    | none => search interval size (count + 1) fuel

end RoundingInterval

namespace FiniteDouble

/-- The interval around the absolute value of a double. Below a power of two the doubles lie twice
as dense as above it. -/
def interval (double : FiniteDouble) : RoundingInterval :=
  let m := double.mantissa
  let dense := m = leastNormal ∧ leastExponent < double.exponent
  let exponent := double.exponent - 2
  let factor := if 0 ≤ exponent then Nat.pow 2 exponent.toNat else 1
  { lower := (if dense then 4 * m - 1 else 4 * m - 2) * factor
    value := 4 * m * factor
    upper := (4 * m + 2) * factor
    denominator := if 0 ≤ exponent then 1 else Nat.pow 2 (-exponent).toNat
    closed := m % 2 = 0 }

/-- The shortest decimal that is rounded to the absolute value of a double. -/
def shortest (double : FiniteDouble) : Decimal :=
  if double.mantissa = 0 then ⟨0, 0⟩
  else
    let interval := double.interval
    interval.search interval.size 1 17

end FiniteDouble

end DetectionQuery
