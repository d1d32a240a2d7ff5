import DetectionQuery.Query.Group
import DetectionQuery.Rule.Modifier

/-!
Selections: what a rule looks for in an event.

A selection is a mapping of items that all have to match, a list of entries of which one has to
match, or a single keyword. An item is a key with a value or a list of values; its modifiers say how
each value is compared and whether one or all of the values have to match.
-/

namespace DetectionQuery.Rule

open DetectionQuery.Query (Condition Pattern)

structure ItemKey where
  field : Option String
  modifiers : List Modifier
deriving DecidableEq, Repr

def queryNumber : Yaml.Number → Except Error Query.Number
  | .int value => .ok (.int value)
  | .float (.finite value) => .ok (.float value)
  | .float value => .error (.notFinite (.float value))

def scalarText : Yaml.Value → Except Error String
  | .text s => .ok s
  | .number n => .ok n.toText
  | .bool b => .ok (toString b)
  | value => .error (.notScalar value)

def splitAtBars : List Char → List (List Char)
  | [] => [[]]
  | '|' :: rest => [] :: splitAtBars rest
  | c :: rest =>
    match splitAtBars rest with
    | part :: parts => (c :: part) :: parts
    | [] => [[c]]

/-- Reads modifiers, failing at the first unknown one. -/
def readModifiers : List (List Char) → Except Error (List Modifier)
  | [] => .ok []
  | part :: rest =>
    match Modifier.parse? (String.ofList part) with
    | some modifier => do
      return modifier :: (← readModifiers rest)
    | none => .error (.unknownModifier (String.ofList part))

/-- Refuses modifiers that no query can express, and a flag without a regular expression. -/
def checkModifiers (modifiers : List Modifier) : Except Error Unit :=
  match modifiers.find? fun modifier => !modifier.supported with
  | some modifier => .error (.unsupportedModifier modifier)
  | none =>
    if modifiers.contains .regexFlag && !modifiers.contains .regex then .error .flagWithoutRegex
    else .ok ()

namespace ItemKey

/-- Reads a key: a field name, which may be empty, and modifiers, separated by bars. -/
def parse (key : String) : Except Error ItemKey :=
  match splitAtBars key.toList with
  | [] => .ok ⟨none, []⟩
  | field :: parts => do
    let modifiers ← readModifiers parts
    checkModifiers modifiers
    return ⟨if field.isEmpty then none else some (String.ofList field), modifiers⟩

def has (key : ItemKey) (modifier : Modifier) : Bool :=
  key.modifiers.contains modifier

/-- The field of a key that has to have one. -/
def requiredField (key : ItemKey) : Except Error String :=
  match key.field with
  | some field => .ok field
  | none => .error (.fieldRequired key.modifiers)

/-- The comparison of the first modifier that asks for one. -/
def comparison? (key : ItemKey) : Option Query.Comparison :=
  key.modifiers.findSome? Modifier.comparison?

/-- Whether every value is matched as text. -/
def matchesText (key : ItemKey) : Bool :=
  key.has .contains || key.has .startsWith || key.has .endsWith

/-- A text with the markers that the modifiers put around it. -/
def marked (key : ItemKey) (text : String) : String :=
  if key.has .contains then "*" ++ text ++ "*"
  else if key.has .startsWith then text ++ "*"
  else if key.has .endsWith then "*" ++ text
  else text

/-- The condition that the key's field, or anything in the event, has a value. -/
def equals (key : ItemKey) (value : Query.Value) : Condition :=
  .leaf (.equals key.field value)

/-- The text of a scalar as a pattern with its markers. -/
def pattern (key : ItemKey) (value : Yaml.Value) : Except Error Pattern := do
  return Pattern.ofText (key.marked (← scalarText value))

/-- The condition on one value without a modifier that replaces the comparison. -/
def plainLeaf (key : ItemKey) (value : Yaml.Value) : Except Error Condition :=
  match value with
  | .null => do
    return .leaf (.isNull (← key.requiredField))
  | .bool b => do
    if key.matchesText then return key.equals (.text (← key.pattern value))
    else return key.equals (.bool b)
  | .number n => do
    if key.matchesText then return key.equals (.text (← key.pattern value))
    else return key.equals (.number (← queryNumber n))
  | value => do
    return key.equals (.text (← key.pattern value))

/-- The condition on one value. -/
def leaf (key : ItemKey) (value : Yaml.Value) : Except Error Condition :=
  if key.has .fieldExists then
    match value.bool? with
    | some expected => do
      return .leaf (.fieldExists (← key.requiredField) expected)
    | none => .error (.notBool value)
  else
    match key.comparison? with
    | some comparison =>
      match value with
      | .number n => do
        let number ← queryNumber n
        return .leaf (.compare (← key.requiredField) comparison number)
      | value => .error (.notNumber value)
    | none =>
      if key.has .fieldRef then do
        let other ← scalarText value
        return .leaf (.equals (some (← key.requiredField)) (.fieldRef other))
      else if key.has .regex then do
        return key.equals (.regex (← scalarText value))
      else key.plainLeaf value

def leaves (key : ItemKey) : List Yaml.Value → Except Error (List Condition)
  | [] => .ok []
  | value :: rest => do
    let condition ← key.leaf value
    return condition :: (← key.leaves rest)

/-- The values of an item: those of a list, or the one value. -/
def values : Yaml.Value → List Yaml.Value
  | .sequence items => items
  | value => [value]

/-- The condition of an item: one of its values matches, or all with the modifier `all`. -/
def condition (key : ItemKey) (value : Yaml.Value) : Except Error Condition :=
  match values value with
  | [] => .error (.noValues key.field)
  | first :: rest => do
    let leaves ← key.leaves (first :: rest)
    Condition.group (if key.has .all then .and else .or) leaves

end ItemKey

def itemCondition (key value : Yaml.Value) : Except Error Condition :=
  match key.text? with
  | some text => do
    let key ← ItemKey.parse text
    key.condition value
  | none => .error (.keyNotText key)

def itemConditions : List (Yaml.Value × Yaml.Value) → Except Error (List Condition)
  | [] => .ok []
  | (key, value) :: rest => do
    let condition ← itemCondition key value
    return condition :: (← itemConditions rest)

/-- All items of a mapping match. -/
def mappingCondition (entries : List (Yaml.Value × Yaml.Value)) : Except Error Condition := do
  Condition.group .and (← itemConditions entries)

def keyword (text : String) : Condition :=
  Condition.keyword (.text (Pattern.ofText text))

def entryCondition : Yaml.Value → Except Error Condition
  | .mapping entries => mappingCondition entries
  | .text s => .ok (keyword s)
  | .number n => do
    return Condition.keyword (.number (← queryNumber n))
  | value => .error (.notSelectionItem value)

def entryConditions : List Yaml.Value → Except Error (List Condition)
  | [] => .ok []
  | item :: rest => do
    let condition ← entryCondition item
    return condition :: (← entryConditions rest)

/-- The condition of a selection. -/
def selectionCondition : Yaml.Value → Except Error Condition
  | .mapping entries => mappingCondition entries
  | .sequence items => do
    Condition.group .or (← entryConditions items)
  | .text s => .ok (keyword s)
  | value => .error (.notSelection value)

end DetectionQuery.Rule
