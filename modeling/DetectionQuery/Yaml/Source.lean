import DetectionQuery.Yaml.Node

/-!
What a record asks of a place in a document.

A record is read either from values, where a text has to be a text, or from nodes, where any scalar
is a text by its spelling. `Source` lists the questions; nothing as an answer means that the place
holds something else.
-/

namespace DetectionQuery.Yaml

/-- Places of a document that records can be read from. -/
class Source (α : Type) where
  /-- Whether an optional field is left out. -/
  absent? : α → Option Bool
  /-- The fields of a record in order; a key that is no text is nothing. -/
  fields? : α → Option (List (Option String × α))
  items? : α → Option (List α)
  text? : α → Option String
  /-- An integer that is not negative and below 2^64. -/
  natural? : α → Option Nat
  flag? : α → Option Bool
  /-- The name of one of several alternatives, and whether nothing else is given with it. -/
  choice? : α → Option (String × Bool)
  value? : α → Option Value
  /-- The value, if it holds none of the document's own tags. -/
  untagged? : α → Option Value

namespace Source

variable {α β : Type} [Source α]

def texts? (place : α) : Option (List String) := do
  (← items? place).mapM text?

def optional? (read : α → Option β) (place : α) : Option (Option β) := do
  if ← absent? place then some none else (read place).map some

end Source

/-! ### Values -/

namespace Value

def natural? (value : Value) : Option Nat :=
  match value.untagged with
  | .number (.int n) => if 0 ≤ n then some n.toNat else none
  | _ => none

/-- The fields of a record in a value; null is a record without fields. -/
def fields? (value : Value) : Option (List (Option String × Value)) :=
  match value.untagged with
  | .mapping entries => some (entries.map fun (key, value) => (key.text?, value))
  | .null => some []
  | _ => none

/-- The items of a sequence; null is a sequence without items. -/
def items? (value : Value) : Option (List Value) :=
  match value.untagged with
  | .sequence items => some items
  | .null => some []
  | _ => none

/-- The name of an alternative: a text, or a tag, which should be one of null. -/
def choice? : Value → Option (String × Bool)
  | .text s => some (s, true)
  | .tagged tag content => some (Tag.bare tag, content matches .null)
  | _ => none

mutual

/-- A value as it is read: by the bare names of its tags. Two entries of a mapping whose keys are
the same by then stand for no value. -/
def value? : Value → Option Value
  | .sequence items => (values? items).map .sequence
  | .mapping entries => (entryValues? entries []).map .mapping
  | .tagged tag content => content.value?.map (.tagged (Tag.bare tag))
  | value => some value

def values? : List Value → Option (List Value)
  | [] => some []
  | value :: rest => do
    let value ← value.value?
    return value :: (← values? rest)

/-- The entries of a mapping as they are read; the earlier keys are `seen`. -/
def entryValues? : List (Value × Value) → List Value → Option (List (Value × Value))
  | [], _ => some []
  | (key, value) :: rest, seen => do
    let key ← key.value?
    if seen.any key.same then none
    let value ← value.value?
    return (key, value) :: (← entryValues? rest (key :: seen))

end

mutual

def isUntagged : Value → Bool
  | .sequence items => areUntagged items
  | .mapping entries => haveUntagged entries
  | .tagged _ _ => false
  | _ => true

def areUntagged : List Value → Bool
  | [] => true
  | value :: rest => value.isUntagged && areUntagged rest

def haveUntagged : List (Value × Value) → Bool
  | [] => true
  | (key, value) :: rest => key.isUntagged && value.isUntagged && haveUntagged rest

end

end Value

instance : Source Value where
  absent? value := some (value matches .null)
  fields? := Value.fields?
  items? := Value.items?
  text? := Value.text?
  natural? := Value.natural?
  flag? := Value.bool?
  choice? := Value.choice?
  value? := Value.value?
  untagged? value := if value.isUntagged then some value else none

/-! ### Nodes -/

namespace Node

/-- Whether a node is a scalar without text that is not quoted, or void. -/
def isBare : Node → Bool
  | .void => true
  | .scalar _ style text => style = .plain && text.isEmpty
  | _ => false

/-- The spelling of a scalar that may be read as a standard type: a plain one, or a literal block
with the tag of the type. -/
def typedText? (type : String) : Node → Option (List Char)
  | .scalar tag style text =>
    if style = .plain || style = .literal && tag = some (.standard type) then some text.toList
    else none
  | _ => none

def natural? (node : Node) : Option Nat := do
  let cs ← node.typedText? "int"
  match readNatural? (Nat.pow 2 64) cs with
  | some n => some n
  | none =>
    let n ← readInteger? (Nat.pow 2 63) cs
    if 0 ≤ n then some n.toNat else none

/-- The fields of a record in a node; a bare node is a record without fields. -/
def fields? (node : Node) : Option (List (Option String × Node)) :=
  match node with
  | .mapping _ entries => some (entries.map fun (key, value) => (key.text?, value))
  | node => if node.isBare then some [] else none

/-- The items of a sequence; a bare node is a sequence without items. -/
def items? (node : Node) : Option (List Node) :=
  match node with
  | .sequence _ items => some items
  | node => if node.isBare then some [] else none

/-- Whether a plain scalar spells null. -/
def spellsNull (text : String) : Bool :=
  text.isEmpty || isNullText text.toList

/-- Whether an optional field is left out: by a plain scalar that spells null. A scalar with the tag
of null has to spell it. -/
def absent? : Node → Option Bool
  | .void => some true
  | .scalar tag style text =>
    if style ≠ .plain then some false
    else
      match tag with
      | some tag =>
        if tag = .standard "null" then if isNullText text.toList then some true else none
        else some false
      | none => some (spellsNull text)
  | .sequence _ _ => some false
  | .mapping _ _ => some false
  | .alias _ => none

/-- The name of an alternative: a scalar, or the document's own tag of one, which should spell null.
-/
def choice? : Node → Option (String × Bool)
  | .scalar tag style text =>
    match ownTag? tag with
    | some name => some (name, style = .plain && spellsNull text)
    | none => some (text, true)
  | _ => none

end Node

instance : Source Node where
  absent? := Node.absent?
  fields? := Node.fields?
  items? := Node.items?
  text? := Node.text?
  natural? := Node.natural?
  flag? node := (node.typedText? "bool").bind readBool?
  choice? := Node.choice?
  value? := Node.value?
  untagged? := Node.untaggedValue?

end DetectionQuery.Yaml
