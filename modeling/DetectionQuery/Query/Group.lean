import DetectionQuery.Error

/-!
Building groups of conditions.

An empty group has no meaning in a query, so the constructors refuse it. `Condition.group` also
turns a group of one member into that member.
-/

namespace DetectionQuery.Query.Condition

/-- All of the children, of which there is at least one. -/
def all : List Condition → Except Error Condition
  | [] => .error (.emptyGroup .and)
  | child :: rest => .ok (.and (child :: rest))

/-- Any of the children, of which there is at least one. -/
def any : List Condition → Except Error Condition
  | [] => .error (.emptyGroup .or)
  | child :: rest => .ok (.or (child :: rest))

/-- The children under a connective; a single child stands for itself. -/
def group (connective : Connective) : List Condition → Except Error Condition
  | [child] => .ok child
  | children =>
    match connective with
    | .and => all children
    | .or => any children

end DetectionQuery.Query.Condition
