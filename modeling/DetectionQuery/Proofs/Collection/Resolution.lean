import DetectionQuery.Proofs.Collection.Lookup
import Mathlib.Data.Finset.Card

/-!
When a correlation can be resolved.

Two things have to be right: each reference of a correlation has to stand for a rule whose query can
be written (`Collection.Resolves`), and the condition of the correlation has to set exactly one
bound (`CorrelationType.IsSet`). What is reported otherwise are `Collection.Reports` and
`CorrelationType.Reports`, and both are what is computed (`failure?_ruleQuery_eq_some_iff`,
`failure?_measure_eq_some_iff`).

References are resolved from left to right and before the condition is looked at, so the first
reference that fails decides, and only without one the condition does (`aggregation_resolves`).
-/

namespace DetectionQuery

open DetectionQuery.Query (Comparison Dialect RuleQuery)
open DetectionQuery.Rule (Correlation CorrelationType CountCondition Threshold)

/-! ### Bounds -/

namespace Rule.CountCondition

variable {condition : CountCondition}

/-- The bound that a condition sets by a comparison. -/
def bound (condition : CountCondition) : Comparison → Option Nat
  | .gt => condition.gt
  | .gte => condition.gte
  | .lt => condition.lt
  | .lte => condition.lte
  | .eq => condition.eq

/-- The condition sets exactly one bound. -/
def SetsOne (condition : CountCondition) : Prop :=
  ∃! comparison, (condition.bound comparison).isSome = true

/-- The error of a condition that sets no bound, or several. -/
inductive Reports (condition : CountCondition) : Error → Prop where
  | unset : (∀ comparison, condition.bound comparison = none) → Reports condition .noComparison
  | several {first second : Comparison} : first ≠ second →
      (condition.bound first).isSome = true → (condition.bound second).isSome = true →
      Reports condition .severalComparisons

/-- All comparisons, in the order in which bounds are listed. -/
def comparisons : List Comparison := [.gt, .gte, .lt, .lte, .eq]

/-- The comparisons by which a condition sets a bound. -/
def used (condition : CountCondition) : List Comparison :=
  comparisons.filter fun comparison => (condition.bound comparison).isSome

theorem mem_used_iff {comparison : Comparison} :
    comparison ∈ condition.used ↔ (condition.bound comparison).isSome = true := by
  have listed : comparison ∈ comparisons := by
    cases comparison <;> decide
  simp [used, listed]

theorem nodup_used (condition : CountCondition) : condition.used.Nodup := by
  have distinct : comparisons.Nodup := by decide
  exact distinct.filter _

theorem map_thresholds (condition : CountCondition) :
    condition.thresholds.map Threshold.comparison = condition.used := by
  have listed (comparisons : List Comparison) :
      (comparisons.filterMap fun comparison =>
          (condition.bound comparison).map (Threshold.mk comparison)).map Threshold.comparison =
        comparisons.filter fun comparison => (condition.bound comparison).isSome := by
    induction comparisons with
    | nil => rfl
    | cons comparison rest ih =>
      cases set : condition.bound comparison with
      | none => simpa [set] using ih
      | some count => simpa [set] using ih
  exact listed comparisons

theorem used_eq_nil_iff :
    condition.used = [] ↔ ∀ comparison, condition.bound comparison = none := by
  simp [List.eq_nil_iff_forall_not_mem, mem_used_iff]

theorem length_used (condition : CountCondition) :
    condition.used.length = condition.used.toFinset.card :=
  (List.toFinset_card_of_nodup (nodup_used condition)).symm

theorem length_used_eq_one_iff : condition.used.length = 1 ↔ condition.SetsOne := by
  rw [length_used, Finset.card_eq_one, Finset.singleton_iff_unique_mem]
  simp only [List.mem_toFinset, mem_used_iff]
  rfl

theorem one_lt_length_used_iff : 1 < condition.used.length ↔
    ∃ first second, first ≠ second ∧ (condition.bound first).isSome = true ∧
      (condition.bound second).isSome = true := by
  rw [length_used, Finset.one_lt_card]
  simp only [List.mem_toFinset, mem_used_iff]
  constructor
  · rintro ⟨first, hfirst, second, hsecond, distinct⟩
    exact ⟨first, second, distinct, hfirst, hsecond⟩
  · rintro ⟨first, second, distinct, hfirst, hsecond⟩
    exact ⟨first, hfirst, second, hsecond, distinct⟩

theorem failure?_threshold (condition : CountCondition) :
    failure? condition.threshold =
      if condition.used.length = 1 then none
      else if condition.used = [] then some .noComparison
      else some .severalComparisons := by
  rw [← map_thresholds]
  unfold threshold
  rcases condition.thresholds with _ | ⟨first, _ | ⟨second, rest⟩⟩
  · rfl
  · rfl
  · simp

theorem failure?_threshold_eq_none_iff :
    failure? condition.threshold = none ↔ condition.SetsOne := by
  rw [failure?_threshold, ← length_used_eq_one_iff]
  split
  · next one => simp [one]
  · next other => split <;> simp [other]

theorem failure?_threshold_eq_some_iff {error : Error} :
    failure? condition.threshold = some error ↔ condition.Reports error := by
  rw [failure?_threshold]
  constructor
  · intro failed
    split at failed
    · cases failed
    · next notOne =>
      split at failed
      · next empty =>
        cases failed
        exact .unset (used_eq_nil_iff.mp empty)
      · next nonempty =>
        cases failed
        have positive := List.length_pos_iff.mpr nonempty
        have several : 1 < condition.used.length := by omega
        obtain ⟨first, second, distinct, hfirst, hsecond⟩ := one_lt_length_used_iff.mp several
        exact .several distinct hfirst hsecond
  · intro reports
    cases reports with
    | unset unset => simp [used_eq_nil_iff.mpr unset]
    | several distinct hfirst hsecond =>
      have several := one_lt_length_used_iff.mpr ⟨_, _, distinct, hfirst, hsecond⟩
      have nonempty : condition.used ≠ [] := List.ne_nil_of_length_pos (by omega)
      rw [if_neg (by omega), if_neg nonempty]

section

variable {α : Type} {f : Threshold → α}

theorem failure?_bind_threshold_eq_none_iff :
    failure? (condition.threshold >>= fun threshold => .ok (f threshold)) = none ↔
      condition.SetsOne := by
  rw [failure?_bind_ok, failure?_threshold_eq_none_iff]

theorem failure?_bind_threshold_eq_some_iff {error : Error} :
    failure? (condition.threshold >>= fun threshold => .ok (f threshold)) = some error ↔
      condition.Reports error := by
  rw [failure?_bind_ok, failure?_threshold_eq_some_iff]

end

end Rule.CountCondition

/-! ### Conditions of correlations -/

namespace Rule.CorrelationType

/-- The condition of the correlation sets exactly one bound, and names a field if values are
counted. Only a temporal correlation may go without a condition. -/
def IsSet : CorrelationType → Prop
  | .eventCount condition => condition.SetsOne
  | .valueCount condition => (∃ field, condition.field = some field) ∧ condition.SetsOne
  | .temporal none => True
  | .temporal (some condition) => condition.SetsOne
  | .temporalOrdered _ => False

/-- The error of a type or its condition. A missing field is reported before the bounds. -/
inductive Reports : CorrelationType → Error → Prop where
  | eventCount {condition : CountCondition} {error : Error} :
      condition.Reports error → Reports (.eventCount condition) error
  | withoutField {condition : CountCondition} :
      condition.field = none → Reports (.valueCount condition) .valueCountWithoutField
  | valueCount {condition : CountCondition} {field : String} {error : Error} :
      condition.field = some field → condition.Reports error →
      Reports (.valueCount condition) error
  | temporal {condition : CountCondition} {error : Error} :
      condition.Reports error → Reports (.temporal (some condition)) error
  | ordered (condition : Option CountCondition) :
      Reports (.temporalOrdered condition) .orderedCorrelation

end Rule.CorrelationType

namespace Rule.Correlation

theorem failure?_measure_eq_none_iff {correlation : Correlation} :
    failure? correlation.measure = none ↔ correlation.type.IsSet := by
  obtain ⟨type, rules, timespan, groupBy, generate⟩ := correlation
  match type with
  | .eventCount condition => exact CountCondition.failure?_bind_threshold_eq_none_iff
  | .valueCount condition =>
    cases field : condition.field with
    | none => simp [measure, CorrelationType.IsSet, field]
    | some name =>
      simp only [measure, CorrelationType.IsSet, field, Option.some.injEq, exists_eq', true_and]
      exact CountCondition.failure?_bind_threshold_eq_none_iff
  | .temporal none => simp [measure, CorrelationType.IsSet]
  | .temporal (some condition) => exact CountCondition.failure?_bind_threshold_eq_none_iff
  | .temporalOrdered condition => simp [measure, CorrelationType.IsSet]

theorem failure?_measure_eq_some_iff {correlation : Correlation} {error : Error} :
    failure? correlation.measure = some error ↔ correlation.type.Reports error := by
  obtain ⟨type, rules, timespan, groupBy, generate⟩ := correlation
  constructor
  · intro failed
    match type with
    | .eventCount condition =>
      exact .eventCount (CountCondition.failure?_bind_threshold_eq_some_iff.mp failed)
    | .valueCount condition =>
      cases field : condition.field with
      | none =>
        simp only [measure, field] at failed
        cases failed
        exact .withoutField field
      | some name =>
        simp only [measure, field] at failed
        exact .valueCount field (CountCondition.failure?_bind_threshold_eq_some_iff.mp failed)
    | .temporal none => cases failed
    | .temporal (some condition) =>
      exact .temporal (CountCondition.failure?_bind_threshold_eq_some_iff.mp failed)
    | .temporalOrdered condition =>
      cases failed
      exact .ordered condition
  · intro reports
    cases reports with
    | eventCount reports => exact CountCondition.failure?_bind_threshold_eq_some_iff.mpr reports
    | withoutField field => simp [measure, field]
    | valueCount field reports =>
      simp only [measure, field]
      exact CountCondition.failure?_bind_threshold_eq_some_iff.mpr reports
    | temporal reports => exact CountCondition.failure?_bind_threshold_eq_some_iff.mpr reports
    | ordered condition => rfl

end Rule.Correlation

/-! ### References -/

/-- The reference is the id or the name of the rule. -/
def Rule.Answers (rule : Rule) (reference : String) : Prop :=
  rule.id = some reference ∨ rule.name = some reference

theorem Rule.isReferencedBy_iff {rule : Rule} {reference : String} :
    rule.isReferencedBy reference = true ↔ rule.Answers reference := by
  simp [isReferencedBy, Answers]

namespace Collection

variable {collection : Collection} {dialect : Dialect} {reference : String}

/-- The rule is the first of the collection that answers to the reference. -/
def First (collection : Collection) (reference : String) (rule : Rule) : Prop :=
  rule.Answers reference ∧ ∃ before after, collection.rules = before ++ rule :: after ∧
    ∀ earlier ∈ before, ¬ earlier.Answers reference

theorem find?_eq_some_iff {rule : Rule} :
    collection.find? reference = some rule ↔ collection.First reference rule := by
  rw [find?, List.find?_eq_some_iff_append]
  simp [First, Rule.isReferencedBy_iff, ← Bool.not_eq_true]

theorem find?_eq_none_iff :
    collection.find? reference = none ↔ ∀ rule ∈ collection.rules, ¬ rule.Answers reference := by
  simp [find?, Rule.isReferencedBy_iff]

/-- The first rule that answers to the reference is a detection with one condition, and the
condition can be written as a query. -/
def Resolves (collection : Collection) (dialect : Dialect) (reference : String) : Prop :=
  ∃ rule source condition query, collection.First reference rule ∧
    rule.body = .detection source [condition] ∧ dialect.render condition = .ok query

/-- The error of a reference. -/
inductive Reports (collection : Collection) (dialect : Dialect) (reference : String) :
    Error → Prop where
  | unknown : (∀ rule ∈ collection.rules, ¬ rule.Answers reference) →
      Reports collection dialect reference (.unknownReference reference)
  | nested {rule : Rule} {correlation : Correlation} : collection.First reference rule →
      rule.body = .correlation correlation →
      Reports collection dialect reference (.nestedCorrelation reference)
  | conditions {rule : Rule} {source : Rule.LogSource} {conditions : List Query.Condition} :
      collection.First reference rule → rule.body = .detection source conditions →
      conditions.length ≠ 1 → Reports collection dialect reference (.severalConditions reference)
  | unwritten {rule : Rule} {source : Rule.LogSource} {condition : Query.Condition}
      {error : Error} :
      collection.First reference rule → rule.body = .detection source [condition] →
      dialect.render condition = .error error → Reports collection dialect reference error

/-- The query is that of the first rule that answers to the reference. It is kept under the name of
the rule, or under its id if the rule has no name. -/
def IsQueryOf (collection : Collection) (dialect : Dialect) (reference : String)
    (found : RuleQuery) : Prop :=
  ∃ rule source condition, collection.First reference rule ∧
    rule.body = .detection source [condition] ∧ dialect.render condition = .ok found.query ∧
    rule.name.or rule.id = some found.identifier

/-- A rule that answers to a reference has a name or an id, so the reference itself never has to
serve as one. -/
theorem First.exists_identifier {rule : Rule} (h : collection.First reference rule) :
    ∃ identifier, rule.name.or rule.id = some identifier := by
  rcases h.1 with id | name
  · cases hname : rule.name with
    | none => exact ⟨reference, id⟩
    | some name => exact ⟨name, rfl⟩
  · exact ⟨reference, by rw [name, Option.some_or]⟩

theorem ruleQuery_eq_ok_iff_isQueryOf {found : RuleQuery} :
    collection.ruleQuery dialect reference = .ok found ↔
      collection.IsQueryOf dialect reference found := by
  rw [ruleQuery_eq_ok_iff]
  constructor
  · rintro ⟨rule, source, condition, query, hrule, body, written, rfl⟩
    have first := find?_eq_some_iff.mp hrule
    obtain ⟨identifier, hidentifier⟩ := first.exists_identifier
    refine ⟨rule, source, condition, first, body, written, ?_⟩
    rw [Rule.identifier, hidentifier, Option.getD_some]
  · rintro ⟨rule, source, condition, first, body, written, hidentifier⟩
    refine ⟨rule, source, condition, found.query, find?_eq_some_iff.mpr first, body, written, ?_⟩
    rw [Rule.identifier, hidentifier, Option.getD_some]

theorem failure?_ruleQuery_eq_none_iff :
    failure? (collection.ruleQuery dialect reference) = none ↔
      collection.Resolves dialect reference := by
  rw [failure?_eq_none_iff]
  simp only [ruleQuery_eq_ok_iff, find?_eq_some_iff]
  constructor
  · rintro ⟨_, rule, source, condition, query, first, body, written, -⟩
    exact ⟨rule, source, condition, query, first, body, written⟩
  · rintro ⟨rule, source, condition, query, first, body, written⟩
    exact ⟨_, rule, source, condition, query, first, body, written, rfl⟩

theorem failure?_ruleQuery_eq_some_iff {error : Error} :
    failure? (collection.ruleQuery dialect reference) = some error ↔
      collection.Reports dialect reference error := by
  rw [failure?_eq_some_iff]
  constructor
  · intro failed
    unfold ruleQuery at failed
    split at failed
    · next unknown =>
      cases failed
      exact .unknown (find?_eq_none_iff.mp unknown)
    · next rule found =>
      have first := find?_eq_some_iff.mp found
      split at failed
      · next correlation body =>
        cases failed
        exact .nested first body
      · next source condition body =>
        cases written : dialect.render condition with
        | ok query =>
          rw [written] at failed
          cases failed
        | error other =>
          rw [written] at failed
          cases failed
          exact .unwritten first body written
      · next source conditions notOne body =>
        cases failed
        refine .conditions first body fun one => ?_
        obtain ⟨condition, single⟩ := List.length_eq_one_iff.mp one
        exact notOne condition single
  · intro reports
    cases reports with
    | unknown unknown => simp only [ruleQuery, find?_eq_none_iff.mpr unknown]
    | nested first body => simp only [ruleQuery, find?_eq_some_iff.mpr first, body]
    | @conditions rule source conditions first body notOne =>
      simp only [ruleQuery, find?_eq_some_iff.mpr first, body]
      rcases conditions with _ | ⟨condition, _ | ⟨next, rest⟩⟩
      · rfl
      · exact absurd rfl notOne
      · rfl
    | unwritten first body written =>
      simp only [ruleQuery, find?_eq_some_iff.mpr first, body, written]
      rfl

theorem Reports.not_resolves {error : Error} (h : collection.Reports dialect reference error) :
    ¬ collection.Resolves dialect reference := by
  rw [← failure?_ruleQuery_eq_none_iff, failure?_ruleQuery_eq_some_iff.mpr h]
  simp

/-! ### Correlations -/

/-- References come first, from left to right, and the condition after them. -/
theorem failure?_aggregation (correlation : Correlation) :
    failure? (collection.aggregation dialect correlation) =
      (correlation.rules.findSome? fun reference =>
        failure? (collection.ruleQuery dialect reference)).or (failure? correlation.measure) := by
  rw [← failure?_mapM]
  exact failure?_bind fun _ _ => failure?_bind_ok

/-- **When a correlation can be resolved.** A correlation is resolved exactly if each of its
references stands for a detection with one condition that can be written, and its own condition sets
exactly one bound. Then it holds the query of each reference, in their order, under the name or else
the id of the rule. Otherwise the error is that of the first reference that fails, and of the type
or the condition only if there is none. -/
theorem aggregation_resolves (collection : Collection) (dialect : Dialect)
    (correlation : Correlation) :
    ((∃ aggregation, collection.aggregation dialect correlation = .ok aggregation) ↔
      (∀ reference ∈ correlation.rules, collection.Resolves dialect reference) ∧
        correlation.type.IsSet) ∧
    (∀ aggregation, collection.aggregation dialect correlation = .ok aggregation →
      List.Forall₂ (collection.IsQueryOf dialect) correlation.rules aggregation.rules) ∧
    ∀ error, collection.aggregation dialect correlation = .error error ↔
      (∃ before reference after, correlation.rules = before ++ reference :: after ∧
        (∀ earlier ∈ before, collection.Resolves dialect earlier) ∧
        ¬ collection.Resolves dialect reference ∧
        collection.Reports dialect reference error) ∨
      ((∀ reference ∈ correlation.rules, collection.Resolves dialect reference) ∧
        correlation.type.Reports error) := by
  refine ⟨?_, ?_, ?_⟩
  · rw [← failure?_eq_none_iff, failure?_aggregation, Option.or_eq_none_iff,
      List.findSome?_eq_none_iff, Correlation.failure?_measure_eq_none_iff]
    simp only [failure?_ruleQuery_eq_none_iff]
  · intro aggregation resolved
    have rules := mapM_eq_ok_iff_forall₂.mp (rules_of_aggregation resolved)
    simpa only [ruleQuery_eq_ok_iff_isQueryOf] using rules
  · intro error
    rw [← failure?_eq_some_iff, failure?_aggregation, Option.or_eq_some_iff,
      List.findSome?_eq_some_iff, List.findSome?_eq_none_iff,
      Correlation.failure?_measure_eq_some_iff]
    simp only [failure?_ruleQuery_eq_none_iff, failure?_ruleQuery_eq_some_iff]
    refine or_congr_left ?_
    constructor
    · rintro ⟨before, reference, after, split, reports, earlier⟩
      exact ⟨before, reference, after, split, earlier, reports.not_resolves, reports⟩
    · rintro ⟨before, reference, after, split, earlier, -, reports⟩
      exact ⟨before, reference, after, split, reports, earlier⟩

/-- A detection and a correlation over it. -/
def logons : Collection :=
  ⟨[.failedLogon, .correlating "guessing" ["failed_logon"] false]⟩

/-- A reference to another correlation is reported, although a further reference is unknown and the
type cannot be resolved either. Without these two references it is the type that is reported. -/
theorem aggregation_resolves_logons :
    logons.aggregation .mongoDB ⟨.temporalOrdered none, ["failed_logon", "guessing", "missing"],
        ⟨10, .minute⟩, none, false⟩ = .error (.nestedCorrelation "guessing") ∧
    logons.aggregation .mongoDB ⟨.temporalOrdered none, ["failed_logon"], ⟨10, .minute⟩, none,
        false⟩ = .error .orderedCorrelation := by
  have written : logons.Resolves .mongoDB "failed_logon" :=
    ⟨_, _, _, _, ⟨.inr rfl, [], _, rfl, by simp⟩, rfl, rfl⟩
  have nested : logons.Reports .mongoDB "guessing" (.nestedCorrelation "guessing") := by
    refine .nested ⟨.inr rfl, [.failedLogon], [], rfl, ?_⟩ rfl
    simp [Rule.Answers, Rule.failedLogon, Rule.ofName]
  constructor
  · apply ((aggregation_resolves _ _ _).2.2 _).mpr
    refine .inl ⟨["failed_logon"], "guessing", ["missing"], rfl, ?_, nested.not_resolves, nested⟩
    simpa using written
  · apply ((aggregation_resolves _ _ _).2.2 _).mpr
    refine .inr ⟨?_, .ordered none⟩
    simpa using written

end Collection

end DetectionQuery
