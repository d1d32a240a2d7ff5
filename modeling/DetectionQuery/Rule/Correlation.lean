import DetectionQuery.Rule.Timespan

/-!
Correlations: rules about how often other rules match within a window of time.

A correlation counts the events, the distinct values of a field or the distinct rules that matched.
Its condition sets one bound on the count; without a condition, a temporal correlation asks for as
many rules as it refers to.
-/

namespace DetectionQuery.Rule

open DetectionQuery.Query (Comparison)

/-- The condition of a correlation: a field and bounds, each of which may be absent. -/
structure CountCondition where
  field : Option String
  gt : Option Nat
  gte : Option Nat
  lt : Option Nat
  lte : Option Nat
  eq : Option Nat
deriving DecidableEq, Repr

/-- A bound on a count. -/
structure Threshold where
  comparison : Comparison
  count : Nat
deriving DecidableEq, Repr

namespace CountCondition

def thresholds (condition : CountCondition) : List Threshold :=
  [(Comparison.gt, condition.gt), (.gte, condition.gte), (.lt, condition.lt),
    (.lte, condition.lte), (.eq, condition.eq)].filterMap fun (comparison, count) =>
      count.map (⟨comparison, ·⟩)

/-- The only bound that a condition sets. -/
def threshold (condition : CountCondition) : Except Error Threshold :=
  match condition.thresholds with
  | [threshold] => .ok threshold
  | [] => .error .noComparison
  | _ => .error .severalComparisons

end CountCondition

/-- The type of a correlation with its condition. -/
inductive CorrelationType where
  | eventCount (condition : CountCondition)
  | valueCount (condition : CountCondition)
  | temporal (condition : Option CountCondition)
  | temporalOrdered (condition : Option CountCondition)
deriving DecidableEq, Repr

/-- A correlation of other rules. -/
structure Correlation where
  type : CorrelationType
  /-- The rules that are correlated, by name or id. -/
  rules : List String
  timespan : Timespan
  groupBy : Option (List String)
  /-- Whether the correlated rules are converted on their own as well. -/
  generate : Bool
deriving DecidableEq, Repr

/-- What a correlation counts. -/
inductive Measure where
  | eventCount
  /-- The distinct values of a field. -/
  | valueCount (field : String)
  /-- The distinct rules that matched. -/
  | temporal
deriving DecidableEq, Repr

namespace Correlation

/-- What a correlation counts, and the bound on it. -/
def measure (correlation : Correlation) : Except Error (Measure × Threshold) :=
  match correlation.type with
  | .eventCount condition => do
    return (.eventCount, ← condition.threshold)
  | .valueCount condition =>
    match condition.field with
    | some field => do
      return (.valueCount field, ← condition.threshold)
    | none => .error .valueCountWithoutField
  | .temporal (some condition) => do
    return (.temporal, ← condition.threshold)
  -- Every reference counts here, also one that is repeated.
  | .temporal none => .ok (.temporal, ⟨.gte, correlation.rules.length⟩)
  | .temporalOrdered _ => .error .orderedCorrelation

/-- The fields that events are grouped by, of which there is at least one. -/
def groupFields (correlation : Correlation) : Option (List String) :=
  correlation.groupBy.filter fun fields => !fields.isEmpty

end Correlation

end DetectionQuery.Rule
