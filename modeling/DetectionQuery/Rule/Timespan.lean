import DetectionQuery.Error
import DetectionQuery.Text.Digits

/-!
Windows of time, such as `10m`.

A timespan is written as a positive count below 2^64 followed by the letter of its unit. One `+` may
stand before the count.
-/

namespace DetectionQuery.Rule

inductive TimeUnit where
  | second
  | minute
  | hour
  | day
  | week
  | month
  | year
deriving DecidableEq, Repr

namespace TimeUnit

/-- The unit of a letter; the case tells minutes from months. -/
def ofChar? : Char → Option TimeUnit
  | 's' => some .second
  | 'm' => some .minute
  | 'h' => some .hour
  | 'd' => some .day
  | 'w' => some .week
  | 'M' => some .month
  | 'y' => some .year
  | _ => none

def toChar : TimeUnit → Char
  | .second => 's'
  | .minute => 'm'
  | .hour => 'h'
  | .day => 'd'
  | .week => 'w'
  | .month => 'M'
  | .year => 'y'

def name : TimeUnit → String
  | .second => "second"
  | .minute => "minute"
  | .hour => "hour"
  | .day => "day"
  | .week => "week"
  | .month => "month"
  | .year => "year"

end TimeUnit

/-- A number of units of time. -/
structure Timespan where
  count : Nat
  unit : TimeUnit
deriving DecidableEq, Repr

namespace Timespan

def parse? (cs : List Char) : Option Timespan := do
  let unit ← TimeUnit.ofChar? (← cs.getLast?)
  let count ← Text.readUnsigned 10 (Nat.pow 2 64) cs.dropLast
  if count = 0 then none else some ⟨count, unit⟩

/-- Reads a timespan; the error carries the whole text. -/
def parse (text : String) : Except Error Timespan :=
  match parse? text.toList with
  | some timespan => .ok timespan
  | none => .error (.invalidTimespan text)

def toText (timespan : Timespan) : String :=
  toString timespan.count ++ String.singleton timespan.unit.toChar

end Timespan

end DetectionQuery.Rule
