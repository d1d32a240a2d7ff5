import DetectionQuery.Number.Shortest

/-!
The text of a double.

Both writers use the shortest decimal, positional from 10^-5 up to but not including 10^16 and
always with a fraction there. They differ in the sign of a positive exponent only, which is a field
of `FloatFormat`.
-/

namespace DetectionQuery

/-- How a double is written. -/
structure FloatFormat where
  /-- The sign in front of an exponent that is not negative. -/
  positiveSign : String

namespace FloatFormat

/-- Numbers of a query: `1e+16`. -/
def query : FloatFormat := ⟨"+"⟩

/-- Numbers of a document: `1e16`. -/
def document : FloatFormat := ⟨""⟩

def pointed (digits : List Char) (places : Nat) : String :=
  String.ofList (digits.take places) ++ "." ++ String.ofList (digits.drop places)

def magnitude (format : FloatFormat) (decimal : Decimal) : String :=
  let digits := Nat.toDigits 10 decimal.digits
  let size := decimal.power + digits.length
  if 0 ≤ decimal.power ∧ size ≤ 16 then
    String.ofList (digits ++ List.replicate decimal.power.toNat '0') ++ ".0"
  else if 0 < size ∧ size ≤ 16 then pointed digits size.toNat
  else if -5 < size ∧ size ≤ 0 then
    "0." ++ String.ofList (List.replicate (-size).toNat '0' ++ digits)
  else
    let exponent := size - 1
    let sign := if 0 ≤ exponent then format.positiveSign else ""
    (if digits.length = 1 then String.ofList digits else pointed digits 1) ++
      "e" ++ sign ++ toString exponent

/-- A finite double. Zero keeps its sign. -/
def text (format : FloatFormat) (double : FiniteDouble) : String :=
  (if double.negative then "-" else "") ++
    if double.mantissa = 0 then "0.0" else format.magnitude double.shortest

end FloatFormat

end DetectionQuery
