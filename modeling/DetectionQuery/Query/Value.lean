import DetectionQuery.Number.Format
import DetectionQuery.Number.Read
import DetectionQuery.Text.Layout
import DetectionQuery.Text.Quoted

/-!
The values that conditions compare with.

A `Pattern` is a text as a rule writes it, with its wildcard markers in place. Only a `*` at either
end is acted on: it decides the pattern's `shape`, and `Pattern.literal` is the text without the
markers that decided it.
-/

namespace DetectionQuery.Query

/-- Where the markers of a pattern stand. -/
inductive Shape where
  /-- The literal may stand anywhere: `*literal*`. -/
  | contains
  /-- The literal stands at the end: `*literal`. -/
  | endsWith
  /-- The literal stands at the start: `literal*`. -/
  | startsWith
  /-- The literal is the whole text. -/
  | equals
deriving DecidableEq, Repr

/-- A text value with its wildcard markers in place. -/
structure Pattern where
  text : String
  wildcards : Bool
deriving DecidableEq, Repr

namespace Pattern

/-- A text in which `*` and `?` are wildcards. -/
def ofText (text : String) : Pattern :=
  ⟨text, text.toList.contains '*' || text.toList.contains '?'⟩

/-- A text without wildcards, whatever its characters. -/
def verbatim (text : String) : Pattern :=
  ⟨text, false⟩

/-- The shape that the markers at the two ends decide. -/
def shape (pattern : Pattern) : Shape :=
  if pattern.wildcards then
    match pattern.text.toList.head? == some '*', pattern.text.toList.getLast? == some '*' with
    | true, true => .contains
    | true, false => .endsWith
    | false, true => .startsWith
    | false, false => .equals
  else .equals

def dropMarkerRight (cs : List Char) : List Char :=
  if cs.getLast? = some '*' then cs.dropLast else cs

/-- The text without the markers that decided the shape. A lone `*` is both of its markers. -/
def literal (pattern : Pattern) : String :=
  match pattern.shape with
  | .contains => String.ofList (dropMarkerRight (pattern.text.toList.drop 1))
  | .endsWith => String.ofList (pattern.text.toList.drop 1)
  | .startsWith => String.ofList pattern.text.toList.dropLast
  | .equals => pattern.text

end Pattern

/-- A number of a query. Integers lie in the signed or unsigned 64-bit range. -/
inductive Number where
  | int (value : Int)
  | float (value : FiniteDouble)
deriving DecidableEq, Repr

namespace Number

def toText : Number → String
  | .int value => toString value
  | .float value => FloatFormat.query.text value

/-- Reads a number: a 64-bit integer if it is one, and else a finite double. -/
def ofText? (text : String) : Option Number :=
  let cs := text.toList
  match Text.readSigned 10 (Nat.pow 2 63) cs <|>
      (Text.readUnsigned 10 (Nat.pow 2 64) cs).map Int.ofNat with
  | some value => some (.int value)
  | none =>
    match Double.read? cs with
    | some (.finite value) => some (.float value)
    | _ => none

end Number

/-- The value side of a field condition. -/
inductive Value where
  | text (pattern : Pattern)
  | bool (value : Bool)
  | number (value : Number)
  | regex (expression : String)
  | list (values : List Value)
  /-- Alternatives that stand for one placeholder. -/
  | expansion (alternatives : List Value)
  /-- The value of another field. -/
  | fieldRef (field : String)
deriving Repr

mutual

def Value.describe : Value → String
  | .text pattern =>
    "Str(SigmaString " ++
      Text.braced ("text: " ++ Text.quoted pattern.text ++ ", wildcards: " ++
        toString pattern.wildcards) ++ ")"
  | .bool b => "Bool(" ++ toString b ++ ")"
  | .number n => "Number(Number(" ++ n.toText ++ "))"
  | .regex expression => "Regex(" ++ Text.quoted expression ++ ")"
  | .list values => "List([" ++ Text.joined ", " (Value.describeAll values) ++ "])"
  | .expansion values => "Expansion([" ++ Text.joined ", " (Value.describeAll values) ++ "])"
  | .fieldRef field => "FieldRef(" ++ Text.quoted field ++ ")"

def Value.describeAll : List Value → List String
  | [] => []
  | value :: rest => value.describe :: Value.describeAll rest

end

end DetectionQuery.Query
