import DetectionQuery.Rule.Record

/-!
Log sources: which events a rule looks at.

Besides the three known fields a log source may have any others, which are kept as they are; of a
repeated one the last value counts.
-/

namespace DetectionQuery.Rule

open DetectionQuery.Yaml (Source Value)

/-- The events that a rule looks at. -/
structure LogSource where
  category : Option String
  product : Option String
  service : Option String
  /-- The further fields, each once. -/
  extra : List (String × Value)

namespace LogSource

def unspecified : LogSource := ⟨none, none, none, []⟩

/-- The fields with one set to a value; it keeps its place if it is there already. -/
def insert (name : String) (value : Value) : List (String × Value) → List (String × Value)
  | [] => [(name, value)]
  | (other, old) :: rest =>
    if other = name then (other, value) :: rest else (other, old) :: insert name value rest

mutual

/-- The value of a further field: the keys of its mappings are texts, each of which counts once, and
a float that is not finite is null. -/
def plain? : Value → Option Value
  | .number (.float (.finite value)) => some (.number (.float (.finite value)))
  | .number (.float _) => some .null
  | .sequence items => (plainItems? items).map .sequence
  | .mapping entries => do
    let fields ← plainFields? entries
    let distinct := fields.foldl (fun known (name, value) => insert name value known) []
    return .mapping (distinct.map fun (name, value) => (.text name, value))
  | .tagged _ _ => none
  | value => some value

def plainItems? : List Value → Option (List Value)
  | [] => some []
  | item :: rest => do
    let item ← plain? item
    return item :: (← plainItems? rest)

def plainFields? : List (Value × Value) → Option (List (String × Value))
  | [] => some []
  | (.text name, value) :: rest => do
    let value ← plain? value
    return (name, value) :: (← plainFields? rest)
  | _ :: _ => none

end

variable {α : Type} [Source α]

/-- Reads one field of a log source. -/
def readField (source : LogSource) (name : String) (place : α) : Except ReadError LogSource :=
  match name with
  | "category" => do
    return { source with category := ← optionalText place }
  | "product" => do
    return { source with product := ← optionalText place }
  | "service" => do
    return { source with service := ← optionalText place }
  | name => do
    let value ← demand ((Source.untagged? place).bind plain?)
    return { source with extra := insert name value source.extra }

def read (place : α) : Except ReadError LogSource :=
  readRecord ["category", "product", "service"] readField unspecified place

end LogSource

end DetectionQuery.Rule
