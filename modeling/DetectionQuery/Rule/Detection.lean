import DetectionQuery.Rule.Expression.Read
import DetectionQuery.Rule.Expression.Resolve
import DetectionQuery.Rule.Selection

/-!
Detections: selections and the conditions over them.

The entries of a detection are selections by name, except for `condition`, which holds one condition
or a list of them, and `timeframe`, which is passed over. Compiling a detection gives one condition
tree for each of its conditions.
-/

namespace DetectionQuery.Rule

open DetectionQuery.Query (Condition)

namespace Detection

/-- The parts of a detection: its last condition entry and its selections in order. -/
structure Parts where
  condition : Option Yaml.Value
  selections : List NamedSelection

/-- Reads the entries of a detection in order, compiling each selection. -/
def readEntries (condition : Option Yaml.Value) :
    List (Yaml.Value × Yaml.Value) → Except Error Parts
  | [] => .ok ⟨condition, []⟩
  | (key, value) :: rest =>
    match key.text? with
    | none => .error .selectionNameNotText
    | some "condition" => readEntries (some value) rest
    | some "timeframe" => readEntries condition rest
    | some name => do
      let selection ← selectionCondition value
      let parts ← readEntries condition rest
      return { parts with selections := (name, selection) :: parts.selections }

def conditionTexts : List Yaml.Value → Except Error (List String)
  | [] => .ok []
  | item :: rest =>
    match item.text? with
    | some text => do
      return text :: (← conditionTexts rest)
    | none => .error .conditionNotText

/-- The texts of a condition entry. -/
def conditionEntry : Option Yaml.Value → Except Error (List String)
  | some (.text s) => .ok [s]
  | some (.sequence (item :: rest)) => conditionTexts (item :: rest)
  | _ => .error .missingCondition

def resolveAll (selections : List NamedSelection) : List String → Except Error (List Condition)
  | [] => .ok []
  | text :: rest => do
    let expression ← Expression.read text
    let condition ← expression.resolve selections
    return condition :: (← resolveAll selections rest)

/-- The condition trees of a detection. -/
def compile (detection : Yaml.Value) : Except Error (List Condition) :=
  match detection.entries? with
  | none => .error .detectionNotMapping
  | some entries => do
    let parts ← readEntries none entries
    let texts ← conditionEntry parts.condition
    resolveAll parts.selections texts

end Detection

end DetectionQuery.Rule
