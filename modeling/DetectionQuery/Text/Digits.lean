/-!
Numbers written in digits.

`readDigits` reads a non-empty run of digits in any base up to sixteen and refuses everything else;
`readUnsigned` and `readSigned` add the optional sign and the bounds of 64-bit and 128-bit integers.
-/

namespace DetectionQuery.Text

/-- The value of a digit character; letters of either case stand for ten to fifteen. -/
def digitValue (c : Char) : Option Nat :=
  if '0' ≤ c ∧ c ≤ '9' then some (c.toNat - '0'.toNat)
  else if 'a' ≤ c ∧ c ≤ 'f' then some (c.toNat - 'a'.toNat + 10)
  else if 'A' ≤ c ∧ c ≤ 'F' then some (c.toNat - 'A'.toNat + 10)
  else none

def isDigit (c : Char) : Bool :=
  '0' ≤ c && c ≤ '9'

def isSigned (cs : List Char) : Bool :=
  cs.head?.any fun c => c = '+' || c = '-'

/-- Reads the remaining digits of a number whose leading digits have the value `value`. -/
def readDigitsFrom (base value : Nat) : List Char → Option Nat
  | [] => some value
  | c :: rest =>
    match digitValue c with
    | some digit => if digit < base then readDigitsFrom base (value * base + digit) rest else none
    | none => none

/-- Reads a non-empty run of digits and nothing else. -/
def readDigits (base : Nat) : List Char → Option Nat
  | [] => none
  | c :: rest => readDigitsFrom base 0 (c :: rest)

/-- Reads a run of digits with at most one leading `+`, of a value below `bound`. -/
def readUnsigned (base bound : Nat) (cs : List Char) : Option Nat :=
  let digits := match cs with
    | '+' :: rest => rest
    | _ => cs
  (readDigits base digits).bind fun value => if value < bound then some value else none

/-- Reads a run of digits with at most one leading sign, of a value from `-bound` up to but not
including `bound`. -/
def readSigned (base bound : Nat) (cs : List Char) : Option Int :=
  match cs with
  | '-' :: rest =>
    (readDigits base rest).bind fun value => if value ≤ bound then some (-(value : Int)) else none
  | _ => (readUnsigned base bound cs).map Int.ofNat

end DetectionQuery.Text
