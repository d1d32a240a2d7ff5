import DetectionQuery.Number.Read
import DetectionQuery.Yaml.Tag
import DetectionQuery.Yaml.Value

/-!
The values that plain scalars stand for.

An unquoted scalar is null, a truth value, a number or text, by its spelling alone. Digits behind a
leading zero are text. Integers may be written in four bases; one that needs more than 64 bits
stands for no value at all, and one that needs more than 128 bits is read as a float.
-/

namespace DetectionQuery.Yaml

open DetectionQuery.Text (isSigned)

/-- Whether a spelling is one of null, other than the empty one. -/
def isNullText (cs : List Char) : Bool :=
  cs = "null".toList || cs = "Null".toList || cs = "NULL".toList || cs = "~".toList

def readBool? (cs : List Char) : Option Bool :=
  if cs = "true".toList || cs = "True".toList || cs = "TRUE".toList then some true
  else if cs = "false".toList || cs = "False".toList || cs = "FALSE".toList then some false
  else none

/-- Whether a spelling is a sign and digits that start with a superfluous zero. -/
def hasLeadingZero (cs : List Char) : Bool :=
  let digits := match cs with
    | '-' :: rest => rest
    | '+' :: rest => rest
    | _ => cs
  match digits with
  | '0' :: c :: rest => (c :: rest).all Text.isDigit
  | _ => false

/-- The base of the digits behind a mark such as `0x`, with those digits. -/
def marked? : List Char → Option (Nat × List Char)
  | '0' :: 'x' :: rest => some (16, rest)
  | '0' :: 'o' :: rest => some (8, rest)
  | '0' :: 'b' :: rest => some (2, rest)
  | _ => none

/-- An integer that is not negative, below `bound`. -/
def readNatural? (bound : Nat) (cs : List Char) : Option Nat :=
  let digits := match cs with
    | '+' :: rest => rest
    | _ => cs
  match marked? digits with
  | some (base, rest) => if isSigned rest then none else Text.readUnsigned base bound rest
  | none =>
    if isSigned digits || hasLeadingZero cs then none else Text.readUnsigned 10 bound digits

/-- An integer with an optional sign, from `-bound` up to but not including `bound`. -/
def readInteger? (bound : Nat) (cs : List Char) : Option Int :=
  let decimal := if hasLeadingZero cs then none else Text.readSigned 10 bound cs
  match cs with
  | '-' :: rest =>
    match marked? rest with
    | some (base, digits) => (Text.readSigned base bound ('-' :: digits)).or decimal
    | none => decimal
  | _ => decimal

/-! ### Floats -/

/-- Reads a float: an infinity, the undefined number, or a decimal in the range of doubles. -/
def readFloat? (cs : List Char) : Option Double :=
  let unsigned := match cs with
    | '+' :: rest => rest
    | _ => cs
  let isOne (spellings : List String) (cs : List Char) : Bool :=
    spellings.any fun spelling => spelling.toList = cs
  if cs.head? == some '+' && isSigned unsigned then none
  else if isOne [".inf", ".Inf", ".INF"] unsigned then some (.infinite false)
  else if isOne ["-.inf", "-.Inf", "-.INF"] cs then some (.infinite true)
  else if isOne [".nan", ".NaN", ".NAN"] cs then some .nan
  else
    match Double.read? unsigned with
    | some (.finite value) => some (.finite value)
    | _ => none

/-! ### Values -/

/-- The outcome of reading a spelling as an integer. -/
inductive IntegerReading where
  | integer (value : Int)
  /-- An integer of more than 64 bits, which no value holds. -/
  | tooWide
  | other

def readWideInteger (cs : List Char) : IntegerReading :=
  match (readNatural? (Nat.pow 2 64) cs).map Int.ofNat <|> readInteger? (Nat.pow 2 63) cs with
  | some value => .integer value
  | none =>
    if (readNatural? (Nat.pow 2 128) cs).isSome || (readInteger? (Nat.pow 2 127) cs).isSome then
      .tooWide
    else .other

def plainValue? (text : String) : Option Value :=
  let cs := text.toList
  if cs.isEmpty || isNullText cs then some .null
  else
    match readBool? cs with
    | some b => some (.bool b)
    | none =>
      match readWideInteger cs with
      | .integer value => some (.number (.int value))
      | .tooWide => none
      | .other =>
        match if hasLeadingZero cs then none else readFloat? cs with
        | some value => some (.number (.float value))
        | none => some (.text text)

/-- The value of a scalar with a tag that is not one of the document's own: the tags of the standard
types ask for a spelling of that type, and any other makes the scalar text. -/
def typedScalar? (tag : Tag) (text : String) : Option Value :=
  let cs := text.toList
  if tag = .standard "bool" then (readBool? cs).map .bool
  else if tag = .standard "int" then
    match readWideInteger cs with
    | .integer value => some (.number (.int value))
    | _ => none
  else if tag = .standard "float" then (readFloat? cs).map fun value => .number (.float value)
  else if tag = .standard "null" then if isNullText cs then some .null else none
  else some (.text text)

end DetectionQuery.Yaml
