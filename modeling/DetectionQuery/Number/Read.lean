import DetectionQuery.Number.Double
import DetectionQuery.Text.Digits

/-!
Decimals as text.

A decimal is digits with at most one point among or around them and an optional exponent;
`Double.read?` reads it, with an optional sign, as the nearest double.
-/

namespace DetectionQuery

/-- A decimal as it is written: all its digits, without the point between them. -/
structure DecimalText where
  digits : List Char
  /-- The number of digits that stand behind the point. -/
  places : Nat
  exponent : Int

namespace DecimalText

def readExponent? : List Char → Option Int
  | [] => some 0
  | c :: rest =>
    if c = 'e' || c = 'E' then
      match rest with
      | '-' :: digits => (Text.readDigits 10 digits).map fun n => -(n : Int)
      | '+' :: digits => (Text.readDigits 10 digits).map Int.ofNat
      | digits => (Text.readDigits 10 digits).map Int.ofNat
    else none

/-- Reads a decimal without sign: digits with at most one point among or around them, and an
optional exponent. -/
def read? (cs : List Char) : Option DecimalText :=
  let whole := cs.takeWhile Text.isDigit
  match cs.dropWhile Text.isDigit with
  | '.' :: rest =>
    let fraction := rest.takeWhile Text.isDigit
    if whole.isEmpty && fraction.isEmpty then none
    else
      (readExponent? (rest.dropWhile Text.isDigit)).map fun exponent =>
        ⟨whole ++ fraction, fraction.length, exponent⟩
  | rest =>
    if whole.isEmpty then none
    else (readExponent? rest).map fun exponent => ⟨whole, 0, exponent⟩

end DecimalText

namespace Double

/-- Reads a decimal with an optional sign as the nearest double. -/
def read? (cs : List Char) : Option Double :=
  let negative := cs.head? == some '-'
  let unsigned := if Text.isSigned cs then cs.drop 1 else cs
  (DecimalText.read? unsigned).map fun decimal =>
    Double.ofDecimal negative ((Text.readDigits 10 decimal.digits).getD 0)
      (decimal.exponent - decimal.places)

end Double

end DetectionQuery
