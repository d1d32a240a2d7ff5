import DetectionQuery.Proofs.Expression.Taken
import DetectionQuery.Proofs.Glob.Wildcard
import DetectionQuery.Proofs.Outcome
import DetectionQuery.Proofs.Query.Condition
import DetectionQuery.Rule.Expression.Resolve

/-!
What condition expressions mean.

`Expression.Holds` gives the truth of an expression over named selections directly: a name stands
for the first selection of that name, and a quantifier counts the selections that its target names.
The condition that an expression is resolved to has the same truth (`resolve_holds_iff`).

Resolution flattens chains of one connective, so an operand contributes a list of conditions whose
meaning depends on the group it is put into. `StandFor` is the invariant that carries this: under
the connective of its group the list holds as the operand does, and outside of any group it is one
condition.
-/

namespace DetectionQuery.Rule

open DetectionQuery.Query (Condition Connective Leaf)

/-- The target of a quantifier names a selection: `them` names all whose name does not start with a
low line, any other target those whose name it matches as a wildcard pattern. -/
def Names (target name : String) : Prop :=
  if target = "them" then name.toList.head? ≠ some '_'
  else Glob.Wildcard target.toList name.toList

instance (target name : String) : Decidable (Names target name) :=
  inferInstanceAs (Decidable (if target = "them" then name.toList.head? ≠ some '_' else _))

namespace Expression

/-- Whether an expression holds over the selections. A target that is no name names nothing. -/
def Holds (selections : List NamedSelection) (truth : Leaf → Bool) : Expression → Prop
  | .name wanted =>
    ∃ condition, selections.lookup wanted = some condition ∧ condition.holds truth = true
  | .not operand => ¬ operand.Holds selections truth
  | .quantified .all (.name target) =>
    ∀ selection ∈ selections, Names target selection.1 → selection.2.holds truth = true
  | .quantified (.count least) (.name target) =>
    least ≤ selections.countP fun selection =>
      Names target selection.1 && selection.2.holds truth
  | .quantified _ _ => False
  | .binary .and left right => left.Holds selections truth ∧ right.Holds selections truth
  | .binary .or left right => left.Holds selections truth ∨ right.Holds selections truth

/-! ### Names and quantifiers -/

section

variable {selections : List NamedSelection} {truth : Leaf → Bool}

theorem lookup_of_resolveName {wanted : String} {condition : Condition}
    (h : resolveName selections wanted = .ok condition) :
    selections.lookup wanted = some condition := by
  rw [resolveName] at h
  split at h
  · next other found hfound =>
    cases h
    obtain ⟨isWanted, before, after, split, unwanted⟩ := List.find?_eq_some_iff_append.mp hfound
    obtain rfl : other = wanted := by simpa using isWanted
    refine List.lookup_eq_some_iff.mpr ⟨before, after, split, fun selection mem => ?_⟩
    have differs : selection.1 ≠ other := by simpa using unwanted selection mem
    simpa using differs.symm
  · cases h

/-- A word names the selections that it matches. -/
theorem named_of_word {target : String} {conditions : List Condition}
    (word : ∀ c ∈ target.toList, isWordChar c = true)
    (h : named target selections = .ok conditions) :
    conditions = (selections.filter fun selection => Names target selection.1).map Prod.snd := by
  rw [named] at h
  split at h
  · next them =>
    cases h
    simp [Names, them]
  · next other =>
    split at h
    · next pattern hpattern =>
      cases h
      have bracket : '[' ∉ target.toList := fun mem => absurd (word _ mem) (by decide)
      have separator : '/' ∉ target.toList := fun mem => absurd (word _ mem) (by decide)
      congr 1
      refine List.filter_congr fun selection _ => ?_
      rw [Bool.eq_iff_iff, Glob.isMatch_iff_wildcard bracket separator hpattern]
      simp [Names, other]
    · cases h

theorem holds_of_resolveQuantified {quantifier : Quantifier} {target : String}
    {condition : Condition} (word : ∀ c ∈ target.toList, isWordChar c = true)
    (h : resolveQuantified quantifier target selections = .ok condition) :
    condition.holds truth = true ↔
      (Expression.quantified quantifier (.name target)).Holds selections truth := by
  obtain ⟨conditions, hnamed, hrest⟩ := bind_eq_ok_iff.mp h
  have same := named_of_word word hnamed
  split at hrest
  · cases hrest
  · cases quantifier with
    | all =>
      rw [Condition.holds_of_group hrest, Condition.connectiveHolds, same]
      simp [Holds, Decidable.imp_iff_not_or]
    | count least =>
      simp only at hrest
      split at hrest
      · next one =>
        rw [Condition.holds_of_group hrest, Condition.connectiveHolds, same, one]
        simp [Holds]
      · cases hrest

/-! ### Chains -/

/-- The conditions stand for a statement in a group of the connective `context`: together they hold
under that connective exactly if the statement is true. Outside of groups it is one condition. -/
def StandFor (truth : Leaf → Bool) (conditions : List Condition) (statement : Prop) :
    Option Connective → Prop
  | none => ∃ only, conditions = [only] ∧ (only.holds truth = true ↔ statement)
  | some connective => Condition.connectiveHolds truth connective conditions = true ↔ statement

/-- A single condition stands for its own truth in every group. -/
theorem standFor_singleton {condition : Condition} {statement : Prop}
    (h : condition.holds truth = true ↔ statement) (context : Option Connective) :
    StandFor truth [condition] statement context := by
  match context with
  | none => exact ⟨condition, rfl, h⟩
  | some .and => simpa [StandFor, Condition.connectiveHolds] using h
  | some .or => simpa [StandFor, Condition.connectiveHolds] using h

/-- Lists that stand for two operands of a connective stand, joined, for both under it. -/
theorem StandFor.append {connective : Connective} {left right : Expression}
    {first second : List Condition}
    (hl : StandFor truth first (left.Holds selections truth) (some connective))
    (hr : StandFor truth second (right.Holds selections truth) (some connective)) :
    StandFor truth (first ++ second)
      ((Expression.binary connective left right).Holds selections truth) (some connective) := by
  cases connective with
  | and =>
    simp only [StandFor, Condition.connectiveHolds] at hl hr
    simp only [StandFor, Condition.connectiveHolds, List.all_append, Bool.and_eq_true, hl, hr,
      Holds]
  | or =>
    simp only [StandFor, Condition.connectiveHolds] at hl hr
    simp only [StandFor, Condition.connectiveHolds, List.any_append, Bool.or_eq_true, hl, hr,
      Holds]

theorem standFor_of_resolveUnder {e : Expression} {context : Option Connective}
    {conditions : List Condition}
    (words : ∀ name ∈ e.names, ∀ c ∈ name.toList, isWordChar c = true)
    (h : e.resolveUnder selections context = .ok conditions) :
    StandFor truth conditions (e.Holds selections truth) context := by
  induction e generalizing context conditions with
  | name wanted =>
    obtain ⟨condition, hname, result⟩ := bind_eq_ok_iff.mp h
    cases result
    exact standFor_singleton (by simp [Holds, lookup_of_resolveName hname]) context
  | not operand ih =>
    obtain ⟨inner, hoperand, result⟩ := bind_eq_ok_iff.mp h
    cases result
    obtain ⟨only, rfl, truthOf⟩ := ih words hoperand
    exact standFor_singleton (by simp [Holds, ← truthOf]) context
  | quantified quantifier operand =>
    cases operand with
    | name target =>
      obtain ⟨condition, hquantified, result⟩ := bind_eq_ok_iff.mp h
      cases result
      have word := words target (by simp [names])
      exact standFor_singleton (holds_of_resolveQuantified word hquantified) context
    | _ => cases h
  | binary connective left right ihl ihr =>
    obtain ⟨first, hleft, further⟩ := bind_eq_ok_iff.mp h
    obtain ⟨second, hright, result⟩ := bind_eq_ok_iff.mp further
    have joined := (ihl (fun name mem => words name (by simp [names, mem])) hleft).append
      (ihr (fun name mem => words name (by simp [names, mem])) hright)
    split at result
    · next same =>
      cases result
      rw [same]
      exact joined
    · obtain ⟨group, hgroup, result⟩ := bind_eq_ok_iff.mp result
      cases result
      exact standFor_singleton (by rwa [Condition.holds_of_group hgroup]) context

end

/-- **Resolution keeps the meaning.** The condition that an expression from a text is resolved to
holds, whatever its leaves say, exactly if the expression holds over the selections. -/
theorem resolve_holds_iff {text : String} {e : Expression} {selections : List NamedSelection}
    {condition : Condition} (expression : read text = .ok e)
    (resolved : e.resolve selections = .ok condition) (truth : Leaf → Bool) :
    condition.holds truth = true ↔ e.Holds selections truth := by
  obtain ⟨conditions, hunder, hgroup⟩ := bind_eq_ok_iff.mp resolved
  obtain ⟨only, rfl, meaning⟩ := standFor_of_resolveUnder
    (fun name mem => isWordChar_of_read expression mem) hunder
  cases hgroup
  exact meaning

/-- A chain of alternatives becomes one group of three, in which a quantifier keeps a group of its
own and a name stands for the first of two selections. -/
theorem resolve_holds_iff_chain :
    ∃ e, read "(a OR any of s_?) or not b" = .ok e ∧
      e.resolve [("s_1", .leaf (.isNull "x")), ("a", .leaf (.isNull "y")),
          ("b", .leaf (.isNull "x")), ("s_2", .leaf (.isNull "z")), ("a", .leaf (.isNull "x"))] =
        .ok (.or [.leaf (.isNull "y"), .or [.leaf (.isNull "x"), .leaf (.isNull "z")],
          .not (.leaf (.isNull "x"))]) ∧
      ∀ truth, (Condition.or [.leaf (.isNull "y"), .or [.leaf (.isNull "x"), .leaf (.isNull "z")],
          .not (.leaf (.isNull "x"))]).holds truth = true ↔
        e.Holds [("s_1", .leaf (.isNull "x")), ("a", .leaf (.isNull "y")),
          ("b", .leaf (.isNull "x")), ("s_2", .leaf (.isNull "z")), ("a", .leaf (.isNull "x"))]
          truth := by
  have cut : tokenize "(a OR any of s_?) or not b".toList = some [.opening, .word ['a'],
      .word ['O', 'R'], .word ['a', 'n', 'y'], .word ['o', 'f'], .word ['s', '_', '?'], .closing,
      .word ['o', 'r'], .word ['n', 'o', 't'], .word ['b']] := by
    decide
  have whole : readAll [.opening, .word ['a'], .word ['O', 'R'], .word ['a', 'n', 'y'],
      .word ['o', 'f'], .word ['s', '_', '?'], .closing, .word ['o', 'r'], .word ['n', 'o', 't'],
      .word ['b']] = some (.binary .or
        (.binary .or (.name "a") (.quantified (.count 1) (.name "s_?"))) (.not (.name "b"))) := by
    decide +kernel
  have expression : read "(a OR any of s_?) or not b" = .ok (.binary .or
      (.binary .or (.name "a") (.quantified (.count 1) (.name "s_?"))) (.not (.name "b"))) :=
    read_eq_ok_iff.mpr ⟨_, cut, whole, rfl⟩
  exact ⟨_, expression, rfl, resolve_holds_iff expression rfl⟩

end Expression

end DetectionQuery.Rule
