import DetectionQuery.Query.Condition

/-!
Condition expressions: what the `condition` entry of a detection says.

An expression combines the names of selections by negation, connectives and quantifiers over the
selections that a target names.
-/

namespace DetectionQuery.Rule

open DetectionQuery.Query (Connective)

/-- How many of the selections named by a target have to hold. -/
inductive Quantifier where
  | count (least : Nat)
  | all
deriving DecidableEq, Repr

inductive Expression where
  | name (name : String)
  | not (operand : Expression)
  | quantified (quantifier : Quantifier) (operand : Expression)
  | binary (connective : Connective) (left right : Expression)
deriving DecidableEq, Repr

namespace Expression

/-- Whether every count is at most `bound`. -/
def countsAtMost (bound : Nat) : Expression → Bool
  | .name _ => true
  | .not operand => operand.countsAtMost bound
  | .quantified (.count least) operand => least ≤ bound && operand.countsAtMost bound
  | .quantified .all operand => operand.countsAtMost bound
  | .binary _ left right => left.countsAtMost bound && right.countsAtMost bound

end Expression

end DetectionQuery.Rule
