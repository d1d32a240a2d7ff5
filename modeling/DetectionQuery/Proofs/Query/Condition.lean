import DetectionQuery.Query.Group

/-!
Condition trees: their leaves, their truth and induction over them.

The truth of a condition is taken under an assignment of truth values to its leaves; an `and` group
holds when all its members do, an `or` group when any does. `Condition.holds_of_group` says that
building a group keeps this meaning although a group of one member is that member.
-/

namespace DetectionQuery.Query.Condition

/-! ### Leaves -/

mutual

/-- The leaves of a condition from left to right. -/
def leaves : Condition → List Leaf
  | .and children => leavesAll children
  | .or children => leavesAll children
  | .not child => child.leaves
  | .leaf only => [only]

def leavesAll : List Condition → List Leaf
  | [] => []
  | child :: rest => child.leaves ++ leavesAll rest

end

theorem leavesAll_eq_flatMap (children : List Condition) :
    leavesAll children = children.flatMap leaves := by
  induction children with
  | nil => rfl
  | cons child rest ih => rw [leavesAll, ih, List.flatMap_cons]

theorem mem_leavesAll {children : List Condition} {leaf : Leaf} :
    leaf ∈ leavesAll children ↔ ∃ child ∈ children, leaf ∈ child.leaves := by
  rw [leavesAll_eq_flatMap, List.mem_flatMap]

/-! ### Truth -/

mutual

/-- Whether a condition holds when its leaves have the given truth values. -/
def holds (truth : Leaf → Bool) : Condition → Bool
  | .and children => allHold truth children
  | .or children => anyHolds truth children
  | .not child => !child.holds truth
  | .leaf only => truth only

def allHold (truth : Leaf → Bool) : List Condition → Bool
  | [] => true
  | child :: rest => child.holds truth && allHold truth rest

def anyHolds (truth : Leaf → Bool) : List Condition → Bool
  | [] => false
  | child :: rest => child.holds truth || anyHolds truth rest

end

variable {truth : Leaf → Bool}

theorem allHold_eq_all (children : List Condition) :
    allHold truth children = children.all (holds truth) := by
  induction children with
  | nil => rfl
  | cons child rest ih => rw [allHold, ih, List.all_cons]

theorem anyHolds_eq_any (children : List Condition) :
    anyHolds truth children = children.any (holds truth) := by
  induction children with
  | nil => rfl
  | cons child rest ih => rw [anyHolds, ih, List.any_cons]

@[simp] theorem holds_and (children : List Condition) :
    (Condition.and children).holds truth = children.all (holds truth) := by
  rw [holds, allHold_eq_all]

@[simp] theorem holds_or (children : List Condition) :
    (Condition.or children).holds truth = children.any (holds truth) := by
  rw [holds, anyHolds_eq_any]

@[simp] theorem holds_not (child : Condition) :
    (Condition.not child).holds truth = !child.holds truth := by
  rw [holds]

@[simp] theorem holds_leaf (only : Leaf) : (Condition.leaf only).holds truth = truth only := by
  rw [holds]

/-- The truth of members under a connective. -/
def connectiveHolds (truth : Leaf → Bool) : Connective → List Condition → Bool
  | .and, children => children.all (holds truth)
  | .or, children => children.any (holds truth)

/-- A group holds as its connective says, whether or not it has only one member. -/
theorem holds_of_group {connective : Connective} {children : List Condition} {condition : Condition}
    (h : group connective children = .ok condition) :
    condition.holds truth = connectiveHolds truth connective children := by
  match children with
  | [] => cases connective <;> cases h
  | [child] =>
    cases h
    cases connective <;> simp [connectiveHolds]
  | child :: next :: rest =>
    cases connective with
    | and =>
      cases h
      exact holds_and _
    | or =>
      cases h
      exact holds_or _

/-- A group has the leaves of its members, whether or not it has only one. -/
theorem leaves_of_group {connective : Connective} {children : List Condition}
    {condition : Condition} (h : group connective children = .ok condition) :
    condition.leaves = children.flatMap leaves := by
  match children with
  | [] => cases connective <;> cases h
  | [child] =>
    cases h
    simp
  | child :: next :: rest =>
    cases connective <;> cases h <;> rw [leaves, leavesAll_eq_flatMap]

/-! ### Induction -/

/-- Induction over conditions. A negation of alternatives may use the statement of each of the
alternatives, since it is them that its query is put together from. -/
@[elab_as_elim]
theorem induction {motive : Condition → Prop}
    (and : ∀ children, (∀ child ∈ children, motive child) → motive (.and children))
    (or : ∀ children, (∀ child ∈ children, motive child) → motive (.or children))
    (notOr : ∀ alternatives, (∀ child ∈ alternatives, motive child) →
      motive (.not (.or alternatives)))
    (not : ∀ child, (∀ alternatives, child ≠ .or alternatives) → motive child →
      motive (.not child))
    (leaf : ∀ leaf, motive (.leaf leaf)) (condition : Condition) : motive condition := by
  have members {children : List Condition} (bound : sizeOf children < sizeOf condition) :
      ∀ child ∈ children, motive child := fun child mem =>
    have : sizeOf child < sizeOf condition := Nat.lt_trans (List.sizeOf_lt_of_mem mem) bound
    induction and or notOr not leaf child
  match condition with
  | .and children => exact and children (members (by simp))
  | .or children => exact or children (members (by simp))
  | .leaf only => exact leaf only
  | .not child =>
    by_cases alternative : ∃ alternatives, child = .or alternatives
    · obtain ⟨alternatives, rfl⟩ := alternative
      exact notOr alternatives (members (by simp; omega))
    · exact not child (fun alternatives same => alternative ⟨alternatives, same⟩)
        (induction and or notOr not leaf child)
termination_by sizeOf condition

end DetectionQuery.Query.Condition
