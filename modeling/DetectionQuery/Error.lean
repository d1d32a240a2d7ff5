import DetectionQuery.Glob.Pattern
import DetectionQuery.Rule.Modifier
import DetectionQuery.Yaml.Value

/-!
Why a rule cannot be compiled or converted.

`Error` lists the causes, each with what a reader needs to find it; `Error.kind` groups them by the
part of a rule that is at fault, and `Error.message` words them.
-/

namespace DetectionQuery

open DetectionQuery.Query (Connective)
open DetectionQuery.Rule (Modifier)

/-- The part of a rule that an error is about. -/
inductive Error.Kind where
  | condition
  | detection
  | modifier
  | value
  | correlation
  | timespan
  | reference
  | unsupported
  | fieldName
  | expansion
  | emptyGroup
  | option
  | pattern
deriving DecidableEq, Repr

/-- Why a rule cannot be compiled or converted. -/
inductive Error where
  /-- The condition does not follow the grammar. -/
  | malformedCondition
  /-- The count of a quantifier does not fit into a signed 64-bit integer. -/
  | countTooLarge
  | unknownSelection (name : String)
  /-- A quantifier stands before something else than a name. -/
  | operandNotName
  | nothingNamed (target : String)
  | detectionNotMapping
  | selectionNameNotText
  | missingCondition
  | conditionNotText
  | keyNotText (key : Yaml.Value)
  | notSelection (value : Yaml.Value)
  | notSelectionItem (value : Yaml.Value)
  | noValues (field : Option String)
  /-- The modifiers need a field, and the key names none. -/
  | fieldRequired (modifiers : List Modifier)
  | unknownModifier (spelling : String)
  | flagWithoutRegex
  | notBool (value : Yaml.Value)
  | notNumber (value : Yaml.Value)
  | notScalar (value : Yaml.Value)
  | notFinite (value : Yaml.Number)
  | noComparison
  | severalComparisons
  | valueCountWithoutField
  | correlationWithoutRules
  | invalidTimespan (text : String)
  | unknownReference (reference : String)
  | unsupportedModifier (modifier : Modifier)
  | unsupportedCount (count : Nat) (target : String)
  | orderedCorrelation
  | nestedCorrelation (reference : String)
  | severalConditions (reference : String)
  | invalidFieldName (name : String)
  | noAlternatives
  | alternativeNotText (value : Query.Value)
  | alternativeShapes (first other : String)
  | emptyGroup (connective : Connective)
  | unknownMethod (name : String)
  | invalidPattern (fault : Glob.Fault)
deriving Repr

namespace Error

def kind : Error → Kind
  | .malformedCondition | .countTooLarge | .unknownSelection _ | .operandNotName
  | .nothingNamed _ => .condition
  | .detectionNotMapping | .selectionNameNotText | .missingCondition | .conditionNotText
  | .keyNotText _ | .notSelection _ | .notSelectionItem _ | .noValues _
  | .fieldRequired _ => .detection
  | .unknownModifier _ | .flagWithoutRegex => .modifier
  | .notBool _ | .notNumber _ | .notScalar _ | .notFinite _ => .value
  | .noComparison | .severalComparisons | .valueCountWithoutField
  | .correlationWithoutRules => .correlation
  | .invalidTimespan _ => .timespan
  | .unknownReference _ => .reference
  | .unsupportedModifier _ | .unsupportedCount _ _ | .orderedCorrelation | .nestedCorrelation _
  | .severalConditions _ => .unsupported
  | .invalidFieldName _ => .fieldName
  | .noAlternatives | .alternativeNotText _ | .alternativeShapes _ _ => .expansion
  | .emptyGroup _ => .emptyGroup
  | .unknownMethod _ => .option
  | .invalidPattern _ => .pattern

/-- The words that open every message of a kind. -/
def Kind.heading : Kind → String
  | .condition => "invalid condition: "
  | .detection => "invalid detection: "
  | .modifier => "invalid modifier: "
  | .value => "invalid value: "
  | .correlation => "invalid correlation rule: "
  | .timespan => "invalid timespan: "
  | .reference => "unknown rule reference: "
  | .unsupported => "unsupported: "
  | .fieldName => "invalid field name: "
  | .expansion => "invalid expansion: "
  | .emptyGroup => "empty "
  | .option => "invalid backend option: "
  | .pattern => "glob pattern error: "

def optionalName : Option String → String
  | some name => "Some(" ++ Text.quoted name ++ ")"
  | none => "None"

/-- What a message says after its heading. -/
def detail : Error → String
  | .malformedCondition => "<syntax>"
  | .countTooLarge => "number too large to fit in target type"
  | .unknownSelection name => "unknown selection " ++ Text.quoted name
  | .operandNotName => "x of expects a selection name or pattern"
  | .nothingNamed target => "no selection matches " ++ Text.quoted target
  | .detectionNotMapping => "detection must be a mapping"
  | .selectionNameNotText => "invalid selection name"
  | .missingCondition => "missing condition"
  | .conditionNotText => "condition must be a string"
  | .keyNotText key => "invalid key " ++ key.describe
  | .notSelection value => "invalid selection " ++ value.describe
  | .notSelectionItem value => "invalid selection item " ++ value.describe
  | .noValues field => "empty value list for " ++ optionalName field
  | .fieldRequired modifiers =>
    "modifiers [" ++ Text.joined ", " (modifiers.map Modifier.describe) ++ "] require a field name"
  | .unknownModifier spelling => spelling
  | .flagWithoutRegex => "regex flag without re"
  | .notBool value => "exists expects a boolean, found " ++ value.describe
  | .notNumber value => "numeric comparison expects a number, found " ++ value.describe
  | .notScalar value => "expected a scalar, found " ++ value.describe
  | .notFinite value => "invalid numeric value: " ++ value.toText
  | .noComparison => "condition without comparison"
  | .severalComparisons => "condition with more than one comparison"
  | .valueCountWithoutField => "value_count condition requires a field"
  | .correlationWithoutRules => "correlation without rules"
  | .invalidTimespan text => text
  | .unknownReference reference => reference
  | .unsupportedModifier modifier => modifier.describe ++ " modifier"
  | .unsupportedCount count target => toString count ++ " of " ++ target
  | .orderedCorrelation => "temporal_ordered correlation"
  | .nestedCorrelation reference => "correlation over correlation rule " ++ Text.quoted reference
  | .severalConditions reference =>
    "correlation over rule " ++ Text.quoted reference ++ " with several conditions"
  | .invalidFieldName name => Text.quoted name
  | .noAlternatives => "no alternatives"
  | .alternativeNotText value => "alternative " ++ value.describe ++ " is not a string"
  | .alternativeShapes first other =>
    "alternatives " ++ Text.quoted first ++ " and " ++ Text.quoted other ++
      " differ in wildcard shape"
  | .emptyGroup .and => "AND group"
  | .emptyGroup .or => "OR group"
  | .unknownMethod name => "unknown correlation method " ++ Text.quoted name
  | .invalidPattern fault => fault.message

def message (error : Error) : String :=
  error.kind.heading ++ error.detail

end Error

end DetectionQuery
