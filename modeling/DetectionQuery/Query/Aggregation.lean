import DetectionQuery.Query.Dialect
import DetectionQuery.Query.Stage
import DetectionQuery.Rule.Correlation

/-!
Correlations compiled to aggregation pipelines.

An aggregation is a correlation whose rules are already queries. Its stages search for the events,
name the rule of each event if the rules themselves are counted, group the events by time, and keep
the groups whose measure satisfies the threshold.
-/

namespace DetectionQuery.Query

open DetectionQuery.Rule (Measure Threshold Timespan)

/-- The query of a rule that takes part in a correlation. -/
structure RuleQuery where
  identifier : String
  query : String
deriving DecidableEq, Repr

/-- A correlation over queries. -/
structure Aggregation where
  measure : Measure
  timespan : Timespan
  groupBy : Option (List String)
  threshold : Threshold
  rules : List RuleQuery
deriving DecidableEq, Repr

namespace Aggregation

def measureName (aggregation : Aggregation) : String :=
  match aggregation.measure with
  | .eventCount => "event_count"
  | .valueCount _ => "value_count"
  | .temporal => "event_type_count"

def accumulator (aggregation : Aggregation) : String :=
  match aggregation.measure with
  | .eventCount => Stage.countEvents aggregation.measureName
  | .valueCount field => Stage.collectValues aggregation.measureName field
  | .temporal => Stage.collectValues aggregation.measureName "event_type"

/-- Searches for the events; a single query stands for itself. -/
def searchStage (aggregation : Aggregation) : String :=
  match aggregation.rules with
  | [rule] => rule.query
  | rules => Stage.searchAll (rules.map RuleQuery.query)

def typingStage (aggregation : Aggregation) : String :=
  Stage.typing (aggregation.rules.map fun rule => Stage.typingBranch rule.query rule.identifier)

def groupStage (aggregation : Aggregation) : String :=
  Stage.grouping aggregation.timespan.unit.name aggregation.accumulator
    (Stage.groupSuffix (aggregation.groupBy.getD []))

def matchStage (aggregation : Aggregation) (dialect : Dialect) : String :=
  Stage.matching aggregation.measureName
    (dialect.comparisonToken aggregation.threshold.comparison) aggregation.threshold.count

/-- The stages of an aggregation, which needs at least one rule. -/
def stages (aggregation : Aggregation) (dialect : Dialect) : Except Error (List String) :=
  if aggregation.rules.isEmpty then .error .correlationWithoutRules
  else
    let typing := match aggregation.measure with
      | .temporal => [aggregation.typingStage]
      | _ => []
    .ok (aggregation.searchStage :: typing ++
      [aggregation.groupStage, aggregation.matchStage dialect])

end Aggregation

end DetectionQuery.Query
