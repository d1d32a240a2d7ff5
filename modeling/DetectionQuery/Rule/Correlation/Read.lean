import DetectionQuery.Rule.Correlation
import DetectionQuery.Rule.Record

/-!
Reading correlations.

The type of a correlation and its condition are read last, from the values of the fields that are
not otherwise known. There a condition may also be given as the list of its six fields in order, and
its keys as their positions in that list.
-/

namespace DetectionQuery.Rule

open DetectionQuery.Yaml (Document Source Value)

namespace CountCondition

def unspecified : CountCondition := ⟨none, none, none, none, none, none⟩

/-- The fields of a condition, by their positions. -/
def fieldNames : List String := ["field", "gt", "gte", "lt", "lte", "eq"]

variable {α : Type} [Source α]

/-- Reads one field of a condition; others are passed over. -/
def readField (condition : CountCondition) (name : String) (place : α) :
    Except ReadError CountCondition :=
  let bound := demand (Source.optional? Source.natural? place)
  match name with
  | "field" => do
    return { condition with field := ← optionalText place }
  | "gt" => do
    return { condition with gt := ← bound }
  | "gte" => do
    return { condition with gte := ← bound }
  | "lt" => do
    return { condition with lt := ← bound }
  | "lte" => do
    return { condition with lte := ← bound }
  | "eq" => do
    return { condition with eq := ← bound }
  | _ => .ok condition

def read (place : α) : Except ReadError CountCondition :=
  readRecord fieldNames readField unspecified place

def ofText (text : String) : Except ReadError CountCondition :=
  readText (Document.record? fieldNames) read text

/-- The name of a field by its key: a text, or its position. A position behind the last field is
that of a field to pass over. -/
def keyName? : Value → Option String
  | .text name => some name
  | .number (.int position) =>
    if 0 ≤ position then some (fieldNames[position.toNat]?.getD "") else none
  | _ => none

/-- Reads a condition from the value of a field: a mapping, or a list of all fields. -/
def ofValue : Value → Except ReadError CountCondition
  | .mapping entries =>
    readFields readField fieldNames [] unspecified
      (entries.map fun (key, value) => (keyName? key, value))
  | .sequence items =>
    if items.length = fieldNames.length then
      readFields readField fieldNames [] unspecified ((fieldNames.map some).zip items)
    else .error .unreadable
  | _ => .error .unreadable

end CountCondition

namespace CorrelationType

/-- The types of correlations, by their positions. -/
def names : List String := ["event_count", "value_count", "temporal", "temporal_ordered"]

def valuesOf (name : String) (fields : List (String × Value)) : List Value :=
  (fields.filter (·.1 = name)).map Prod.snd

/-- Reads the value of a field that may occur once. -/
def readOnce {β : Type} (name : String) (read : Value → Except ReadError β) :
    List Value → Except ReadError (Option β)
  | [] => .ok none
  | [value] => do
    return some (← read value)
  | value :: _ => do
    let _ ← read value
    .error (.repeatedField name)

def requiredCondition (fields : List (String × Value)) : Except ReadError CountCondition := do
  let condition ← readOnce "condition" CountCondition.ofValue (valuesOf "condition" fields)
  given "condition" condition

/-- A condition that may be left out or null. -/
def optionalCondition (fields : List (String × Value)) :
    Except ReadError (Option CountCondition) := do
  let read (value : Value) : Except ReadError (Option CountCondition) :=
    if value matches .null then .ok none else (CountCondition.ofValue value).map some
  return (← readOnce "condition" read (valuesOf "condition" fields)).join

/-- The types of correlations by name, each with what it reads from the fields that are not
otherwise known. -/
def ofName (name : String) :
    Except ReadError (List (String × Value) → Except ReadError CorrelationType) :=
  match name with
  | "event_count" => .ok fun fields => (requiredCondition fields).map .eventCount
  | "value_count" => .ok fun fields => (requiredCondition fields).map .valueCount
  | "temporal" => .ok fun fields => (optionalCondition fields).map .temporal
  | "temporal_ordered" => .ok fun fields => (optionalCondition fields).map .temporalOrdered
  | name => .error (.unknownChoice name names)

/-- The name of a type: a text, or its position. -/
def readName : Value → Except ReadError String
  | .text name => .ok name
  | .number (.int position) =>
    if 0 ≤ position then demand names[position.toNat]? else .error .unreadable
  | _ => .error .unreadable

/-- Reads a type from the fields that are not otherwise known. -/
def ofFields (fields : List (String × Value)) : Except ReadError CorrelationType := do
  let read (value : Value) := readName value >>= ofName
  let type ← given "type" (← readOnce "type" read (valuesOf "type" fields))
  type fields

end CorrelationType

namespace Correlation

/-- The fields of a correlation as far as they are read. -/
structure Fields where
  rules : Option (List String)
  timespan : Option Timespan
  groupBy : Option (List String)
  generate : Bool
  /-- The fields that are not otherwise known, in order. -/
  further : List (String × Value)

variable {α : Type} [Source α]

def readTimespan (place : α) : Except ReadError Timespan := do
  let text ← demand (Source.text? place)
  match Timespan.parse? text.toList with
  | some timespan => .ok timespan
  | none => .error (.invalidTimespan text)

def readField (fields : Fields) (name : String) (place : α) : Except ReadError Fields :=
  match name with
  | "rules" => do
    return { fields with rules := some (← demand (Source.texts? place)) }
  | "timespan" => do
    return { fields with timespan := some (← readTimespan place) }
  | "group-by" => do
    return { fields with groupBy := ← optionalTexts place }
  | "generate" => do
    return { fields with generate := ← demand (Source.flag? place) }
  | name => do
    let value ← demand (Source.untagged? place)
    return { fields with further := fields.further ++ [(name, value)] }

def read (place : α) : Except ReadError Correlation := do
  let known := ["rules", "timespan", "group-by", "generate"]
  let fields ← readRecord known readField ⟨none, none, none, false, []⟩ place
  let rules ← given "rules" fields.rules
  let timespan ← given "timespan" fields.timespan
  let type ← CorrelationType.ofFields fields.further
  return ⟨type, rules, timespan, fields.groupBy, fields.generate⟩

def ofText (text : String) : Except ReadError Correlation :=
  readText Document.whole? read text

end Correlation

end DetectionQuery.Rule
