import DetectionQuery.Number.Format
import DetectionQuery.Text.Layout
import DetectionQuery.Text.Quoted
import DetectionQuery.Yaml.Tag

/-!
Values of a YAML document.

A value is a scalar, a sequence, a mapping in document order with keys of any kind, or a tagged
value. Tags are compared and shown by their names without a leading exclamation mark. The accessors
`text?`, `bool?` and `entries?` look through tags; a match on the constructors does not, and both
kinds of look-up are needed. `Value.describe` is how a message shows a value.
-/

namespace DetectionQuery.Yaml

/-- A number of a document. Integers lie in the signed or unsigned 64-bit range. -/
inductive Number where
  | int (value : Int)
  | float (value : Double)
deriving DecidableEq, Repr

/-- A value of a document. -/
inductive Value where
  | null
  | bool (value : Bool)
  | number (value : Number)
  | text (value : String)
  | sequence (items : List Value)
  | mapping (entries : List (Value × Value))
  | tagged (tag : String) (content : Value)
deriving Repr

namespace Number

def toText : Number → String
  | .int value => toString value
  | .float .nan => ".nan"
  | .float (.infinite negative) => if negative then "-.inf" else ".inf"
  | .float (.finite value) => FloatFormat.document.text value

/-- Numerical equality among integers and among floats. -/
def same : Number → Number → Bool
  | .int a, .int b => a = b
  | .float a, .float b => a.same b
  | _, _ => false

end Number

namespace Value

/-- The value inside all tags. -/
def untagged : Value → Value
  | .tagged _ content => untagged content
  | value => value

def text? (value : Value) : Option String :=
  match value.untagged with
  | .text s => some s
  | _ => none

def bool? (value : Value) : Option Bool :=
  match value.untagged with
  | .bool b => some b
  | _ => none

def entries? (value : Value) : Option (List (Value × Value)) :=
  match value.untagged with
  | .mapping entries => some entries
  | _ => none

mutual

/-- Whether two values are equal as keys of a mapping. -/
def same : Value → Value → Bool
  | .null, .null => true
  | .bool a, .bool b => a = b
  | .number a, .number b => a.same b
  | .text a, .text b => a = b
  | .sequence a, .sequence b => sameItems a b
  | .mapping a, .mapping b => a.length = b.length && hasEntries a b
  | .tagged s a, .tagged t b => Tag.bare s = Tag.bare t && same a b
  | _, _ => false

def sameItems : List Value → List Value → Bool
  | [], [] => true
  | a :: as, b :: bs => same a b && sameItems as bs
  | _, _ => false

/-- Whether all entries of a mapping are, in any order, among those of another. -/
def hasEntries : List (Value × Value) → List (Value × Value) → Bool
  | [], _ => true
  | (k, a) :: as, bs => bs.any (fun (l, b) => same k l && same a b) && hasEntries as bs

end

mutual

def describe : Value → String
  | .null => "Null"
  | .bool b => "Bool(" ++ toString b ++ ")"
  | .number n => "Number(" ++ n.toText ++ ")"
  | .text s => "String(" ++ Text.quoted s ++ ")"
  | .sequence items => "Sequence [" ++ Text.joined ", " (describeItems items) ++ "]"
  | .mapping entries => "Mapping \x7b" ++ Text.joined ", " (describeEntries entries) ++ "\x7d"
  | .tagged tag content =>
    "TaggedValue " ++ Text.braced ("tag: !" ++ Tag.bare tag ++ ", value: " ++ describe content)

def describeItems : List Value → List String
  | [] => []
  | item :: rest => describe item :: describeItems rest

/-- The entries of a mapping as a message shows them. Text, numbers and truth values are shown bare
as keys. -/
def describeEntries : List (Value × Value) → List String
  | [] => []
  | (.text s, v) :: rest => Text.member (Text.quoted s) (describe v) :: describeEntries rest
  | (.number n, v) :: rest => Text.member n.toText (describe v) :: describeEntries rest
  | (.bool b, v) :: rest => Text.member (toString b) (describe v) :: describeEntries rest
  | (k, v) :: rest => Text.member (describe k) (describe v) :: describeEntries rest

end

/-- A mapping from entries in order; a later entry with the key of an earlier one replaces its
value. -/
def ofEntries (entries : List (Value × Value)) : Value :=
  .mapping (entries.foldl insert [])
where
  insert (entries : List (Value × Value)) (entry : Value × Value) : List (Value × Value) :=
    if entries.any fun (key, _) => key.same entry.1
    then entries.map fun (key, value) => if key.same entry.1 then (key, entry.2) else (key, value)
    else entries ++ [entry]

end Value

end DetectionQuery.Yaml
