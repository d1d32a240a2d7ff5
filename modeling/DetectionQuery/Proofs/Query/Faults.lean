import DetectionQuery.Proofs.Outcome
import DetectionQuery.Proofs.Query.Condition
import DetectionQuery.Query.Render

/-!
When a condition cannot be written as a query.

Only leaves can be bad: by the name of their field, by the name of the field they refer to, or by
alternatives that no single text can stand for. `Leaf.IsBad` says which leaves these are, and
`Leaf.fault?` which error is reported for one.

The query of a condition is put together from left to right, and a negation of alternatives passes
over the group that it negates. Either way the leaves are met in their order, so the outcome is
decided by the first leaf that has a fault (`Dialect.failure?_render`).
-/

namespace DetectionQuery.Query

/-! ### Names -/

namespace Dialect

/-- The name is empty or would end the literal it is put into. -/
def Refuses (dialect : Dialect) (name : String) : Prop :=
  name = "" ∨ dialect.quote ∈ name.toList ∨ dialect.escape ∈ name.toList

instance (dialect : Dialect) (name : String) : Decidable (dialect.Refuses name) :=
  inferInstanceAs (Decidable (_ ∨ _ ∨ _))

/-- The error of a name that is refused. -/
def nameFault? (dialect : Dialect) (name : String) : Option Error :=
  if dialect.Refuses name then some (.invalidFieldName name) else none

variable {dialect : Dialect}

theorem isBadName_iff {name : String} : dialect.isBadName name = true ↔ dialect.Refuses name := by
  simp [isBadName, Refuses, or_assoc]

theorem nameFault?_eq_none_iff {name : String} :
    dialect.nameFault? name = none ↔ ¬ dialect.Refuses name := by
  simp [nameFault?]

theorem failure?_fieldName (name : String) :
    failure? (dialect.fieldName name) = dialect.nameFault? name := by
  unfold fieldName nameFault?
  simp only [isBadName_iff]
  split
  · rfl
  · split <;> rfl

end Dialect

/-! ### Alternatives -/

/-- The error of an alternative in the company of the first one. -/
def alternativeFault? (first : Value) : Value → Option Error
  | .text other =>
    match first with
    | .text pattern =>
      if other.shape = pattern.shape then none
      else some (.alternativeShapes pattern.text other.text)
    | _ => none
  | value => some (.alternativeNotText value)

/-- No single text can stand for the alternatives: there are none, one of them is no text, or one
has another shape than the first. -/
def AreMixed (alternatives : List Value) : Prop :=
  alternatives = [] ∨ (∃ value ∈ alternatives, ∀ pattern, value ≠ .text pattern) ∨
    ∃ first other, alternatives.head? = some (.text first) ∧ .text other ∈ alternatives ∧
      other.shape ≠ first.shape

theorem alternativeFault?_self (pattern : Pattern) :
    alternativeFault? (.text pattern) (.text pattern) = none := by
  simp [alternativeFault?]

theorem failure?_checkAlternatives (first : Pattern) (rest : List Value) :
    failure? (checkAlternatives first rest) =
      rest.findSome? (alternativeFault? (.text first)) := by
  induction rest with
  | nil => rfl
  | cons value rest ih =>
    rw [List.findSome?_cons]
    cases value with
    | text other =>
      simp only [checkAlternatives, alternativeFault?]
      split
      · exact ih
      · rfl
    | _ => rfl

/-- What is reported for alternatives is the first of them that is no text or has another shape than
the first. -/
theorem failure?_representative (first : Value) (rest : List Value) :
    failure? (representative (first :: rest)) =
      (first :: rest).findSome? (alternativeFault? first) := by
  rw [List.findSome?_cons]
  cases first with
  | text pattern =>
    rw [alternativeFault?_self]
    exact failure?_bind_ok.trans (failure?_checkAlternatives pattern rest)
  | _ => rfl

theorem alternativeFault?_eq_none_iff {pattern : Pattern} {value : Value} :
    alternativeFault? (.text pattern) value = none ↔
      ∃ other, value = .text other ∧ other.shape = pattern.shape := by
  cases value with
  | text other => simp [alternativeFault?]
  | _ => simp [alternativeFault?]

/-- No alternative has a fault exactly if all are texts of the shape of the first. -/
theorem findSome?_alternativeFault?_eq_none_iff {first : Value} {rest : List Value} :
    (first :: rest).findSome? (alternativeFault? first) = none ↔ ¬ AreMixed (first :: rest) := by
  rw [List.findSome?_eq_none_iff]
  cases first with
  | text pattern =>
    simp only [alternativeFault?_eq_none_iff]
    constructor
    · rintro alike (empty | ⟨value, mem, noText⟩ | ⟨leading, other, head, mem, differs⟩)
      · cases empty
      · obtain ⟨other, same, -⟩ := alike value mem
        exact noText other same
      · cases head
        obtain ⟨_, same, shape⟩ := alike (.text other) mem
        cases same
        exact differs shape
    · intro alike value mem
      by_cases text : ∃ other, value = .text other
      · obtain ⟨other, rfl⟩ := text
        by_cases same : other.shape = pattern.shape
        · exact ⟨other, rfl, same⟩
        · exact absurd (.inr (.inr ⟨pattern, other, rfl, mem, same⟩)) alike
      · exact absurd (.inr (.inl ⟨value, mem, fun other same => text ⟨other, same⟩⟩)) alike
  | _ =>
    refine iff_of_false (fun alike => ?_) (fun alike => alike (.inr (.inl ⟨_, .head _, nofun⟩)))
    cases alike _ (.head _)

theorem representative_of_not_areMixed {alternatives : List Value}
    (alike : ¬ AreMixed alternatives) :
    ∃ first, alternatives.head? = some (.text first) ∧ representative alternatives = .ok first := by
  cases alternatives with
  | nil => exact absurd (.inl rfl) alike
  | cons value rest =>
    have faultless := findSome?_alternativeFault?_eq_none_iff.mpr alike
    rw [← failure?_representative] at faultless
    obtain ⟨first, stands⟩ := failure?_eq_none_iff.mp faultless
    cases value with
    | text pattern =>
      obtain ⟨_, _, result⟩ := bind_eq_ok_iff.mp stands
      cases result
      exact ⟨first, rfl, stands⟩
    | _ => cases stands

/-! ### Leaves -/

/-- No query compares a field with the value: it refers to a field that is refused, or no single
text can stand for its alternatives. -/
def Value.IsBad (dialect : Dialect) : Value → Prop
  | .fieldRef other => dialect.Refuses other
  | .expansion alternatives => AreMixed alternatives
  | _ => False

/-- The error of a value that a field is compared with. -/
def Value.fault? (dialect : Dialect) : Value → Option Error
  | .fieldRef other => dialect.nameFault? other
  | .expansion [] => some .noAlternatives
  | .expansion (first :: rest) => (first :: rest).findSome? (alternativeFault? first)
  | _ => none

/-- No query can be written for the leaf. Without a field there is always one. -/
def Leaf.IsBad (dialect : Dialect) : Leaf → Prop
  | .equals none _ => False
  | .equals (some field) value => dialect.Refuses field ∨ value.IsBad dialect
  | .compare field _ _ => dialect.Refuses field
  | .isNull field => dialect.Refuses field
  | .fieldExists field _ => dialect.Refuses field

/-- The error of a leaf: that of its field comes before that of its value. -/
def Leaf.fault? (dialect : Dialect) : Leaf → Option Error
  | .equals none _ => none
  | .equals (some field) value => (dialect.nameFault? field).or (value.fault? dialect)
  | .compare field _ _ => dialect.nameFault? field
  | .isNull field => dialect.nameFault? field
  | .fieldExists field _ => dialect.nameFault? field

section

variable {dialect : Dialect}

theorem Value.fault?_eq_none_iff {value : Value} :
    value.fault? dialect = none ↔ ¬ value.IsBad dialect := by
  match value with
  | .fieldRef other => exact Dialect.nameFault?_eq_none_iff
  | .expansion [] => exact iff_of_false nofun (fun good => good (.inl rfl))
  | .expansion (first :: rest) => exact findSome?_alternativeFault?_eq_none_iff
  | .text _ => exact iff_of_true rfl id
  | .bool _ => exact iff_of_true rfl id
  | .number _ => exact iff_of_true rfl id
  | .regex _ => exact iff_of_true rfl id
  | .list _ => exact iff_of_true rfl id

theorem Leaf.fault?_eq_none_iff {leaf : Leaf} :
    leaf.fault? dialect = none ↔ ¬ leaf.IsBad dialect := by
  match leaf with
  | .equals none _ => exact iff_of_true rfl id
  | .equals (some field) value =>
    simp only [fault?, IsBad, Option.or_eq_none_iff, not_or, Dialect.nameFault?_eq_none_iff,
      Value.fault?_eq_none_iff]
  | .compare field _ _ => exact Dialect.nameFault?_eq_none_iff
  | .isNull field => exact Dialect.nameFault?_eq_none_iff
  | .fieldExists field _ => exact Dialect.nameFault?_eq_none_iff

theorem Leaf.isSome_fault?_iff {leaf : Leaf} :
    (leaf.fault? dialect).isSome = true ↔ leaf.IsBad dialect := by
  rw [Option.isSome_iff_ne_none, ne_eq, fault?_eq_none_iff, Classical.not_not]

instance (leaf : Leaf) : Decidable (leaf.IsBad dialect) :=
  decidable_of_iff _ Leaf.isSome_fault?_iff

theorem Dialect.failure?_renderEquals (field : String) (value : Value) :
    failure? (dialect.renderEquals field value) =
      (dialect.nameFault? field).or (value.fault? dialect) := by
  unfold renderEquals
  rw [failure?_bind, failure?_fieldName]
  intro name _
  match value with
  | .fieldRef other => exact failure?_bind_ok.trans (failure?_fieldName other)
  | .expansion [] => rfl
  | .expansion (first :: rest) => exact failure?_bind_ok.trans (failure?_representative first rest)
  | .text _ => rfl
  | .bool _ => rfl
  | .number _ => rfl
  | .regex _ => rfl
  | .list _ => rfl

theorem Dialect.failure?_renderLeaf (leaf : Leaf) :
    failure? (dialect.renderLeaf leaf) = leaf.fault? dialect := by
  match leaf with
  | .equals none _ => rfl
  | .equals (some field) value => exact failure?_renderEquals field value
  | .compare field _ _ => exact failure?_bind_ok.trans (failure?_fieldName field)
  | .isNull field => exact failure?_bind_ok.trans (failure?_fieldName field)
  | .fieldExists field _ => exact failure?_bind_ok.trans (failure?_fieldName field)

/-- A field compared with alternatives that one text can stand for is written as the field compared
with the first of them. -/
theorem Dialect.renderEquals_expansion {alternatives : List Value} (alike : ¬ AreMixed alternatives)
    (field : String) :
    ∃ first, alternatives.head? = some (.text first) ∧
      dialect.renderEquals field (.expansion alternatives) =
        dialect.renderEquals field (.text first) := by
  obtain ⟨first, head, stands⟩ := representative_of_not_areMixed alike
  refine ⟨first, head, ?_⟩
  simp only [renderEquals, stands]
  rfl

end

/-! ### Conditions -/

namespace Dialect

variable {dialect : Dialect}

/-- Members are written in order, so the first fault of their leaves is reported. -/
theorem failure?_renderAll {children : List Condition}
    (members : ∀ child ∈ children, failure? (dialect.render child) =
      child.leaves.findSome? (Leaf.fault? dialect)) :
    failure? (dialect.renderAll children) =
      (Condition.leavesAll children).findSome? (Leaf.fault? dialect) := by
  induction children with
  | nil => rfl
  | cons child rest ih =>
    have others := ih fun other mem => members other (List.mem_cons_of_mem child mem)
    rw [renderAll, Condition.leavesAll, List.findSome?_append, ← members child List.mem_cons_self,
      ← others]
    exact failure?_bind fun _ _ => failure?_bind_ok

/-- **The first fault decides.** -/
theorem failure?_render (condition : Condition) :
    failure? (dialect.render condition) =
      condition.leaves.findSome? (Leaf.fault? dialect) := by
  induction condition using Condition.induction with
  | and children ih => exact failure?_bind_ok.trans (failure?_renderAll ih)
  | or children ih => exact failure?_bind_ok.trans (failure?_renderAll ih)
  | notOr alternatives ih => exact failure?_bind_ok.trans (failure?_renderAll ih)
  | not child other ih =>
    rw [render, Condition.leaves, ← ih]
    · exact failure?_bind_ok
    · exact other
  | leaf leaf =>
    rw [Condition.leaves, List.findSome?_singleton]
    exact failure?_renderLeaf leaf

/-- A condition is written exactly if none of its leaves is bad. -/
theorem exists_render_eq_error_iff {condition : Condition} :
    (∃ error, dialect.render condition = .error error) ↔
      ∃ leaf ∈ condition.leaves, leaf.IsBad dialect := by
  simp only [← failure?_eq_some_iff, ← Option.isSome_iff_exists]
  rw [failure?_render, List.findSome?_isSome_iff]
  simp only [Leaf.isSome_fault?_iff]

/-- **When a condition has no query, and why.** Writing a condition fails exactly if one of its
leaves is bad. The error is the one of the first bad leaf from the left, whatever groups and
negations stand around it. An expansion that is not bad is written as its first alternative. -/
theorem render_eq_error_iff (dialect : Dialect) (condition : Condition) :
    ((∃ error, dialect.render condition = .error error) ↔
      ∃ leaf ∈ condition.leaves, leaf.IsBad dialect) ∧
    (∀ error, dialect.render condition = .error error ↔
      ∃ before leaf after, condition.leaves = before ++ leaf :: after ∧
        (∀ earlier ∈ before, ¬ earlier.IsBad dialect) ∧ leaf.IsBad dialect ∧
        leaf.fault? dialect = some error) ∧
    ∀ field alternatives, ¬ (Leaf.equals (some field) (.expansion alternatives)).IsBad dialect →
      ∃ first text, alternatives.head? = some (.text first) ∧
        dialect.renderLeaf (.equals (some field) (.expansion alternatives)) = .ok text ∧
        dialect.renderLeaf (.equals (some field) (.text first)) = .ok text := by
  refine ⟨exists_render_eq_error_iff, fun error => ?_, fun field alternatives good => ?_⟩
  · rw [← failure?_eq_some_iff, failure?_render, List.findSome?_eq_some_iff]
    simp only [Leaf.fault?_eq_none_iff]
    constructor
    · rintro ⟨before, leaf, after, leaves, fault, earlier⟩
      have bad : leaf.IsBad dialect := by
        rw [← Leaf.isSome_fault?_iff, fault]
        rfl
      exact ⟨before, leaf, after, leaves, earlier, bad, fault⟩
    · rintro ⟨before, leaf, after, leaves, earlier, -, fault⟩
      exact ⟨before, leaf, after, leaves, fault, earlier⟩
  · obtain ⟨text, written⟩ := failure?_eq_none_iff.mp
      ((failure?_renderLeaf _).trans (Leaf.fault?_eq_none_iff.mpr good))
    obtain ⟨first, head, same⟩ := renderEquals_expansion (not_or.mp good).2 field
    exact ⟨first, text, head, written, same.symm.trans written⟩

/-- Behind an empty group and a good expansion, the name of a field is reported before the value
that it is compared with, and before the leaf to its right. -/
theorem render_eq_error_iff_negated :
    mongoDB.render (.not (.or [.and [],
        .fieldEquals "Image" (.expansion [.text (.ofText "*a"), .text (.ofText "*b")]),
        .not (.fieldEquals "Us\"er" (.expansion [])), .leaf (.isNull "")])) =
      .error (.invalidFieldName "Us\"er") := by
  refine ((render_eq_error_iff mongoDB _).2.1 _).mpr
    ⟨[.equals (some "Image") (.expansion [.text (.ofText "*a"), .text (.ofText "*b")])],
      .equals (some "Us\"er") (.expansion []), [.isNull ""], rfl, ?_, by decide, rfl⟩
  intro earlier mem
  rw [List.mem_singleton.mp mem]
  decide

end Dialect

end DetectionQuery.Query
