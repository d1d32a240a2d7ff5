import DetectionQuery.Query.Value

/-!
Condition trees: what a rule asks of an event, before any query language.

A leaf compares one field, or the whole event, with a value. Groups are built by `Condition.all` and
`Condition.any`, which refuse an empty group, or by `Condition.group`, which also turns a group of
one into its only member.
-/

namespace DetectionQuery.Query

inductive Comparison where
  | lt
  | lte
  | gt
  | gte
  /-- Used for the threshold of a correlation only. -/
  | eq
deriving DecidableEq, Repr

/-- A condition without parts. -/
inductive Leaf where
  /-- A field has a value; without a field, the value occurs anywhere in the event. -/
  | equals (field : Option String) (value : Value)
  | compare (field : String) (comparison : Comparison) (value : Number)
  | isNull (field : String)
  | fieldExists (field : String) (expected : Bool)
deriving Repr

/-- A condition on an event. -/
inductive Condition where
  | and (children : List Condition)
  | or (children : List Condition)
  | not (child : Condition)
  | leaf (leaf : Leaf)
deriving Repr

/-- The connective of a group. -/
inductive Connective where
  | and
  | or
deriving DecidableEq, Repr

namespace Condition

def fieldEquals (field : String) (value : Value) : Condition :=
  .leaf (.equals (some field) value)

/-- The value occurs anywhere in the event. -/
def keyword (value : Value) : Condition :=
  .leaf (.equals none value)

end Condition

end DetectionQuery.Query
