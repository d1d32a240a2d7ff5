import DetectionQuery.Proofs.Expression.Faults

/-!
Parentheses inside chains of one connective.

`Expression.Reassociated` relates expressions that differ only in where the parentheses of such
chains stand: it is the least congruence that moves them from the left to the right. Resolution
cannot tell these expressions apart (`resolve_of_reassociated`), whether it succeeds or fails.

The reason is that an expression gives its group nothing but the conditions of its operands, in
their order (`resolveUnder_eq_mapM`). Hence a chain becomes one group of the conditions of all its
operands (`resolve_binary`).
-/

namespace DetectionQuery

namespace Query.Condition

/-- The children under a connective, however many there are. -/
def under : Connective → List Condition → Condition
  | .and, children => .and children
  | .or, children => .or children

theorem group_of_two_le {connective : Connective} {children : List Condition}
    (h : 2 ≤ children.length) : group connective children = .ok (under connective children) := by
  match children with
  | [] => simp at h
  | [child] => simp at h
  | child :: next :: rest => cases connective <;> rfl

end Query.Condition

namespace Rule.Expression

open DetectionQuery.Query (Condition Connective)

/-- Two expressions differ in the parentheses inside chains of one connective only, at any number of
places. -/
inductive Reassociated : Expression → Expression → Prop where
  | assoc (connective : Connective) (first second third : Expression) :
      Reassociated (.binary connective (.binary connective first second) third)
        (.binary connective first (.binary connective second third))
  | refl (e : Expression) : Reassociated e e
  | symm {e e' : Expression} : Reassociated e e' → Reassociated e' e
  | trans {e e' e'' : Expression} : Reassociated e e' → Reassociated e' e'' → Reassociated e e''
  | not {operand operand' : Expression} :
      Reassociated operand operand' → Reassociated (.not operand) (.not operand')
  | quantified {operand operand' : Expression} (quantifier : Quantifier) :
      Reassociated operand operand' →
      Reassociated (.quantified quantifier operand) (.quantified quantifier operand')
  | binary {left left' right right' : Expression} (connective : Connective) :
      Reassociated left left' → Reassociated right right' →
      Reassociated (.binary connective left right) (.binary connective left' right')

/-- The operands of a chain of the connective, from left to right and through all parentheses. Any
other expression is its own only operand. -/
def operands (connective : Connective) : Expression → List Expression
  | .binary other left right =>
    if other = connective then left.operands connective ++ right.operands connective
    else [.binary other left right]
  | e => [e]

theorem operands_ne_nil (connective : Connective) (e : Expression) :
    e.operands connective ≠ [] := by
  induction e with
  | binary other left right ihl ihr =>
    rw [operands]
    split
    · simp [ihl]
    · simp
  | _ => simp [operands]

theorem operands_binary (connective : Connective) (left right : Expression) :
    (Expression.binary connective left right).operands connective =
      left.operands connective ++ right.operands connective := by
  rw [operands, if_pos rfl]

theorem two_le_length_operands (connective : Connective) (left right : Expression) :
    2 ≤ ((Expression.binary connective left right).operands connective).length := by
  have first := List.length_pos_iff.mpr (operands_ne_nil connective left)
  have second := List.length_pos_iff.mpr (operands_ne_nil connective right)
  rw [operands_binary, List.length_append]
  omega

/-- No operand of a chain is itself joined by the connective of the chain. -/
theorem ne_binary_of_mem_operands {connective : Connective} {e operand : Expression}
    (mem : operand ∈ e.operands connective) (left right : Expression) :
    operand ≠ .binary connective left right := by
  induction e with
  | binary other first second ihl ihr =>
    rw [operands] at mem
    split at mem
    · rcases List.mem_append.mp mem with mem | mem
      · exact ihl mem
      · exact ihr mem
    · next differs =>
      rw [List.mem_singleton.mp mem]
      intro same
      cases same
      exact differs rfl
  | _ =>
    rw [List.mem_singleton.mp mem]
    simp

/-! ### Chains as groups of their operands -/

section

variable (selections : List NamedSelection)

/-- Outside of groups an expression gives one condition. -/
theorem exists_resolveUnder_none (e : Expression) :
    ∃ result, e.resolveUnder selections none = (do return [← result]) := by
  induction e with
  | name wanted => exact ⟨resolveName selections wanted, rfl⟩
  | not operand ih =>
    obtain ⟨result, single⟩ := ih
    refine ⟨do return .not (← result), ?_⟩
    rw [resolveUnder, single]
    cases result <;> rfl
  | quantified quantifier operand =>
    cases operand with
    | name target => exact ⟨resolveQuantified quantifier target selections, rfl⟩
    | _ => exact ⟨.error .operandNotName, rfl⟩
  | binary connective left right =>
    refine ⟨do
      let first ← left.resolveUnder selections (some connective)
      let second ← right.resolveUnder selections (some connective)
      Condition.group connective (first ++ second), ?_⟩
    simp [resolveUnder]

/-- That is the condition that the expression is resolved to. -/
theorem resolveUnder_none (e : Expression) :
    e.resolveUnder selections none = (do return [← e.resolve selections]) := by
  obtain ⟨result, single⟩ := exists_resolveUnder_none selections e
  have same : e.resolve selections = result := by
    rw [resolve, single]
    exact group_singleton result
  rw [single, same]

/-- In a group of its own connective a chain gives what its two sides give. -/
theorem resolveUnder_self (connective : Connective) (left right : Expression) :
    (Expression.binary connective left right).resolveUnder selections (some connective) = (do
      let first ← left.resolveUnder selections (some connective)
      let second ← right.resolveUnder selections (some connective)
      return first ++ second) := by
  simp [resolveUnder]

/-- Anywhere else it gives one group of that. -/
theorem resolveUnder_other {connective : Connective} {context : Option Connective}
    (h : context ≠ some connective) (left right : Expression) :
    (Expression.binary connective left right).resolveUnder selections context = (do
      let children ←
        (Expression.binary connective left right).resolveUnder selections (some connective)
      return [← Condition.group connective children]) := by
  simp [resolveUnder, h]

/-- In a group of a connective, an expression gives the conditions of its operands. -/
theorem resolveUnder_eq_mapM (connective : Connective) (e : Expression) :
    e.resolveUnder selections (some connective) =
      (e.operands connective).mapM (·.resolve selections) := by
  -- Everything but a chain of this very connective is resolved as it is outside of groups.
  have single {e : Expression}
      (h : e.resolveUnder selections (some connective) = e.resolveUnder selections none) :
      e.resolveUnder selections (some connective) = [e].mapM (·.resolve selections) := by
    rw [h, resolveUnder_none]
    simp
  induction e with
  | binary other left right ihl ihr =>
    by_cases same : other = connective
    · subst same
      rw [resolveUnder_self, operands_binary, List.mapM_append, ihl, ihr]
    · rw [operands, if_neg same]
      have outside : some connective ≠ some other := by simpa using Ne.symm same
      apply single
      rw [resolveUnder_other selections outside,
        resolveUnder_other selections (Option.some_ne_none other).symm]
  | name wanted => exact single rfl
  | not operand => exact single rfl
  | quantified quantifier operand => cases operand <;> exact single rfl

/-- **A chain becomes one group of its operands.** -/
theorem resolve_binary (connective : Connective) (left right : Expression) :
    (Expression.binary connective left right).resolve selections = (do
      let children ← ((Expression.binary connective left right).operands connective).mapM
        (·.resolve selections)
      return Condition.under connective children) := by
  rw [resolve, resolveUnder_other selections (Option.some_ne_none connective).symm,
    resolveUnder_eq_mapM]
  cases resolved : ((Expression.binary connective left right).operands connective).mapM
      (·.resolve selections) with
  | error e => rfl
  | ok children =>
    have several : 2 ≤ children.length := by
      rw [length_of_mapM resolved]
      exact two_le_length_operands connective left right
    change (do Condition.group .and (← (do return [← Condition.group connective children]))) = _
    rw [group_singleton, Condition.group_of_two_le several]
    rfl

/-! ### Expressions that differ in their parentheses -/

variable {selections}

/-- A name stands in no chain, so it is related to itself only. -/
theorem Reassociated.name_iff {e e' : Expression} (h : e.Reassociated e') {target : String} :
    e = .name target ↔ e' = .name target := by
  induction h with
  | refl e => exact Iff.rfl
  | symm _ ih => exact ih.symm
  | trans _ _ ih ih' => exact ih.trans ih'
  | _ => simp

theorem resolveUnder_of_ne_name {operand : Expression} (h : ∀ target, operand ≠ .name target)
    {quantifier : Quantifier} {context : Option Connective} :
    (Expression.quantified quantifier operand).resolveUnder selections context =
      .error .operandNotName := by
  cases operand with
  | name target => exact absurd rfl (h target)
  | _ => rfl

/-- Related expressions give every group the same conditions, or the same error. -/
theorem resolveUnder_of_reassociated {e e' : Expression} (h : e.Reassociated e')
    (context : Option Connective) :
    e.resolveUnder selections context = e'.resolveUnder selections context := by
  induction h generalizing context with
  | assoc connective first second third =>
    -- In a group of the connective both sides give the conditions of all three in their order.
    have inside :
        (Expression.binary connective (.binary connective first second) third).resolveUnder
            selections (some connective) =
          (Expression.binary connective first (.binary connective second third)).resolveUnder
            selections (some connective) := by
      simp only [resolveUnder_self, bind_assoc, pure_bind, List.append_assoc]
    by_cases same : context = some connective
    · rw [same, inside]
    · rw [resolveUnder_other selections same, resolveUnder_other selections same, inside]
  | refl e => rfl
  | symm _ ih => exact (ih context).symm
  | trans _ _ ih ih' => exact (ih context).trans (ih' context)
  | not _ ih => rw [resolveUnder, resolveUnder, ih none]
  | @quantified operand operand' quantifier related =>
    by_cases isName : ∃ target, operand = .name target
    · obtain ⟨target, rfl⟩ := isName
      rw [related.name_iff.mp rfl]
    · have noName : ∀ target, operand ≠ .name target := fun target same => isName ⟨target, same⟩
      have noName' : ∀ target, operand' ≠ .name target := fun target same =>
        noName target (related.name_iff.mpr same)
      rw [resolveUnder_of_ne_name noName, resolveUnder_of_ne_name noName']
  | @binary left left' right right' connective _ _ ihl ihr =>
    rw [resolveUnder, resolveUnder, ihl (some connective), ihr (some connective)]

end

/-- **Parentheses inside a chain do not matter.** Expressions that differ only in such parentheses,
at any number of places and at any depth, are resolved alike: to the same condition, or with the
same error. A chain of one connective becomes one group, whose members are the conditions of all its
operands from left to right. -/
theorem resolve_of_reassociated (selections : List NamedSelection) :
    (∀ e e' : Expression, e.Reassociated e' → e.resolve selections = e'.resolve selections) ∧
    ∀ (connective : Connective) (left right : Expression),
      2 ≤ ((Expression.binary connective left right).operands connective).length ∧
      (∀ operand ∈ (Expression.binary connective left right).operands connective,
        ∀ first second, operand ≠ .binary connective first second) ∧
      (Expression.binary connective left right).resolve selections = (do
        let children ← ((Expression.binary connective left right).operands connective).mapM
          (·.resolve selections)
        return Condition.under connective children) := by
  refine ⟨fun e e' related => ?_, fun connective left right => ⟨?_, ?_, ?_⟩⟩
  · rw [resolve, resolve, resolveUnder_of_reassociated related]
  · exact two_le_length_operands connective left right
  · intro operand mem
    exact ne_binary_of_mem_operands mem
  · exact resolve_binary selections connective left right

/-- `a and (not ((b or c) or d) and a)` and `(a and not (b or (c or d))) and a`: the parentheses of
two chains are moved, one of them below a negation. Both become the same condition, and where
neither `b` nor `c` is among the selections, both fail at `b`. -/
theorem resolve_of_reassociated_nested :
    ∃ e e' : Expression, e ≠ e' ∧ e.Reassociated e' ∧
      e'.resolve [("a", .leaf (.isNull "x")), ("d", .leaf (.isNull "y"))] =
        .error (.unknownSelection "b") ∧
      e'.resolve [("a", .leaf (.isNull "x")), ("b", .leaf (.isNull "y")),
          ("c", .leaf (.isNull "z")), ("d", .leaf (.isNull "w"))] =
        .ok (.and [.leaf (.isNull "x"),
          .not (.or [.leaf (.isNull "y"), .leaf (.isNull "z"), .leaf (.isNull "w")]),
          .leaf (.isNull "x")]) := by
  have related : Reassociated
      (.binary .and (.name "a") (.binary .and
        (.not (.binary .or (.binary .or (.name "b") (.name "c")) (.name "d"))) (.name "a")))
      (.binary .and (.binary .and (.name "a")
        (.not (.binary .or (.name "b") (.binary .or (.name "c") (.name "d"))))) (.name "a")) :=
    .trans (.symm (.assoc _ _ _ _))
      (.binary _ (.binary _ (.refl _) (.not (.assoc _ _ _ _))) (.refl _))
  refine ⟨_, _, by decide, related, ?_, ?_⟩
  · rw [← (resolve_of_reassociated _).1 _ _ related]
    rfl
  · rw [← (resolve_of_reassociated _).1 _ _ related]
    rfl

end Rule.Expression

end DetectionQuery
