import DetectionQuery.Collection
import DetectionQuery.Notice
import DetectionQuery.Query.Aggregation
import DetectionQuery.Query.Render

/-!
Conversion of rules to queries and pipelines.

A detection becomes one query for each of its conditions, a correlation one pipeline over the
queries of its rules. A rule that a correlation refers to is not converted on its own, unless the
correlation asks for it.
-/

namespace DetectionQuery.Collection

open DetectionQuery.Query (Aggregation Dialect RuleQuery Stage.pipeline)
open DetectionQuery.Rule (Correlation)

/-- The references of a rule to rules that are not converted on their own. -/
def suppressedBy (rule : Rule) : List String :=
  match rule.body with
  | .detection _ _ => []
  | .correlation correlation => if correlation.generate then [] else correlation.rules

def suppressed (collection : Collection) : List String :=
  collection.rules.flatMap suppressedBy

/-- Whether a rule is used by correlations only. -/
def isSuppressed (collection : Collection) (rule : Rule) : Bool :=
  collection.suppressed.any rule.isReferencedBy

/-- The query of a rule that a correlation refers to: a detection with a single condition. -/
def ruleQuery (collection : Collection) (dialect : Dialect) (reference : String) :
    Except Error RuleQuery :=
  match collection.find? reference with
  | none => .error (.unknownReference reference)
  | some rule =>
    match rule.body with
    | .correlation _ => .error (.nestedCorrelation reference)
    | .detection _ [condition] => do
      let query ← dialect.render condition
      return ⟨rule.identifier.getD reference, query⟩
    | .detection _ _ => .error (.severalConditions reference)

def aggregation (collection : Collection) (dialect : Dialect) (correlation : Correlation) :
    Except Error Aggregation := do
  -- An error in a reference is reported before one in the condition.
  let rules ← correlation.rules.mapM (collection.ruleQuery dialect)
  let (measure, threshold) ← correlation.measure
  return ⟨measure, correlation.timespan, correlation.groupFields, threshold, rules⟩

def convertRule (collection : Collection) (dialect : Dialect) (rule : Rule) :
    Except Error (List String) :=
  match rule.body with
  | .detection _ conditions => conditions.mapM dialect.render
  | .correlation correlation => do
    let aggregation ← collection.aggregation dialect correlation
    return [Stage.pipeline (← aggregation.stages dialect)]

/-- The queries of all rules that are converted on their own, in order. -/
def convert (collection : Collection) (dialect : Dialect) : Except Error (List String) := do
  let rules := collection.rules.filter fun rule => !collection.isSuppressed rule
  return (← rules.mapM (collection.convertRule dialect)).flatten

/-- The reports on converting rules, up to the first that fails. -/
def noticesOf (collection : Collection) (dialect : Dialect) : List Rule → List Notice
  | [] => []
  | rule :: rest =>
    if collection.isSuppressed rule then .skipping rule.title :: collection.noticesOf dialect rest
    else
      match collection.convertRule dialect rule with
      | .ok _ => .converting rule.title :: collection.noticesOf dialect rest
      | .error _ => [.converting rule.title]

def notices (collection : Collection) (dialect : Dialect) : List Notice :=
  collection.noticesOf dialect collection.rules

end DetectionQuery.Collection
