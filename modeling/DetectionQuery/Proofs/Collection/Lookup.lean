import DetectionQuery.Collection.Convert
import DetectionQuery.Proofs.Outcome

/-!
What a conversion looks up in its collection.

A collection decides two things about a rule: whether the rule is converted on its own, which
depends on the references of all correlations that do not set `generate`, and which queries the
rule's own references stand for. `convertRule_congr` says that the second is all that the queries of
a rule depend on. `Collection.IsRun` lists the rules that a successful conversion goes through, each
with its queries.
-/

namespace DetectionQuery

open DetectionQuery.Query (Aggregation Dialect RuleQuery)
open DetectionQuery.Rule (Correlation)

/-- The references of a rule to the rules that it correlates. -/
def Rule.correlated (rule : Rule) : List String :=
  match rule.body with
  | .detection _ _ => []
  | .correlation correlation => correlation.rules

theorem Rule.mem_correlated_iff {rule : Rule} {reference : String} :
    reference ∈ rule.correlated ↔
      ∃ correlation, rule.body = .correlation correlation ∧ reference ∈ correlation.rules := by
  unfold Rule.correlated
  cases rule.body with
  | detection source conditions => simp
  | correlation correlation => simp

namespace Collection

variable {collection first second : Collection} {dialect : Dialect} {rule user : Rule}
  {reference : String}

/-! ### References -/

theorem find?_append : (first ++ second).find? reference =
    (first.find? reference).or (second.find? reference) :=
  List.find?_append

theorem mem_suppressedBy_iff : reference ∈ suppressedBy user ↔
    ∃ correlation, user.body = .correlation correlation ∧ correlation.generate = false ∧
      reference ∈ correlation.rules := by
  unfold suppressedBy
  cases user.body with
  | detection source conditions => simp
  | correlation correlation =>
    cases flag : correlation.generate with
    | false => simp [flag]
    | true => simp [flag]

/-- The rule `user` keeps `rule` from being converted on its own: it is a correlation that does not
set `generate`, and `reference`, which names `rule`, is one of its references. -/
structure Suppresses (collection : Collection) (user : Rule) (reference : String) (rule : Rule) :
    Prop where
  mem : user ∈ collection.rules
  mem_suppressedBy : reference ∈ suppressedBy user
  names : rule.isReferencedBy reference = true

theorem isSuppressed_iff : collection.isSuppressed rule = true ↔
    ∃ user reference, collection.Suppresses user reference rule := by
  simp only [isSuppressed, suppressed, List.any_flatMap, List.any_eq_true]
  constructor
  · rintro ⟨user, mem, reference, href, names⟩
    exact ⟨user, reference, mem, href, names⟩
  · rintro ⟨user, reference, mem, href, names⟩
    exact ⟨user, mem, reference, href, names⟩

theorem isSuppressed_append : (first ++ second).isSuppressed rule =
    (first.isSuppressed rule || second.isSuppressed rule) := by
  have rules : (first ++ second).rules = first.rules ++ second.rules := rfl
  simp only [isSuppressed, suppressed, rules, List.flatMap_append, List.any_append]

/-! ### Rules that are converted -/

/-- A reference stands for the query of the first rule it names, which has to be a detection with a
single condition. -/
theorem ruleQuery_eq_ok_iff {found : RuleQuery} :
    collection.ruleQuery dialect reference = .ok found ↔
      ∃ rule source condition query, collection.find? reference = some rule ∧
        rule.body = .detection source [condition] ∧ dialect.render condition = .ok query ∧
        found = ⟨rule.identifier.getD reference, query⟩ := by
  constructor
  · intro h
    unfold ruleQuery at h
    split at h
    · cases h
    · next rule hrule =>
      split at h
      · cases h
      · next source condition body =>
        obtain ⟨query, hquery, h⟩ := bind_eq_ok_iff.mp h
        cases h
        exact ⟨rule, source, condition, query, hrule, body, hquery, rfl⟩
      · cases h
  · rintro ⟨rule, source, condition, query, hrule, body, hquery, rfl⟩
    simp only [ruleQuery, hrule, body, hquery]
    rfl

/-- An aggregation holds the queries of the correlation's references, what the correlation counts
and the bound on it, its window of time and the fields it groups by. -/
theorem aggregation_eq_ok_iff {correlation : Correlation} {aggregation : Aggregation} :
    collection.aggregation dialect correlation = .ok aggregation ↔
      correlation.rules.mapM (collection.ruleQuery dialect) = .ok aggregation.rules ∧
      correlation.measure = .ok (aggregation.measure, aggregation.threshold) ∧
      correlation.timespan = aggregation.timespan ∧
      correlation.groupFields = aggregation.groupBy := by
  constructor
  · intro h
    obtain ⟨rules, hrules, h⟩ := bind_eq_ok_iff.mp h
    obtain ⟨⟨measure, threshold⟩, hmeasure, h⟩ := bind_eq_ok_iff.mp h
    cases h
    exact ⟨hrules, hmeasure, rfl, rfl⟩
  · rintro ⟨hrules, hmeasure, htimespan, hgroup⟩
    refine bind_eq_ok_iff.mpr ⟨_, hrules, bind_eq_ok_iff.mpr ⟨_, hmeasure, ?_⟩⟩
    rw [htimespan, hgroup]
    rfl

/-- The rules of an aggregation are those that the references of its correlation stand for. -/
theorem rules_of_aggregation {correlation : Correlation} {aggregation : Aggregation}
    (h : collection.aggregation dialect correlation = .ok aggregation) :
    correlation.rules.mapM (collection.ruleQuery dialect) = .ok aggregation.rules :=
  (aggregation_eq_ok_iff.mp h).1

/-- A correlation that is converted becomes the pipeline of its aggregation. -/
theorem convertRule_correlation_eq_ok_iff {correlation : Correlation} {queries : List String}
    (body : rule.body = .correlation correlation) :
    collection.convertRule dialect rule = .ok queries ↔
      ∃ aggregation stages, collection.aggregation dialect correlation = .ok aggregation ∧
        aggregation.stages dialect = .ok stages ∧ queries = [Query.Stage.pipeline stages] := by
  simp only [convertRule, body]
  constructor
  · intro h
    obtain ⟨aggregation, haggregation, h⟩ := bind_eq_ok_iff.mp h
    obtain ⟨stages, hstages, h⟩ := bind_eq_ok_iff.mp h
    cases h
    exact ⟨aggregation, stages, haggregation, hstages, rfl⟩
  · rintro ⟨aggregation, stages, haggregation, hstages, rfl⟩
    exact bind_eq_ok_iff.mpr ⟨aggregation, haggregation, bind_eq_ok_iff.mpr ⟨stages, hstages, rfl⟩⟩

/-- A rule is converted alike in two collections in which its references stand for the same
queries. -/
theorem convertRule_congr (h : ∀ reference ∈ rule.correlated,
      first.ruleQuery dialect reference = second.ruleQuery dialect reference) :
    first.convertRule dialect rule = second.convertRule dialect rule := by
  unfold convertRule
  unfold Rule.correlated at h
  split
  · rfl
  · next correlation body =>
    rw [body] at h
    simp only [Collection.aggregation, mapM_congr h]

/-- The rules that are converted on their own. -/
def converted (collection : Collection) : List Rule :=
  collection.rules.filter fun rule => !collection.isSuppressed rule

theorem mem_converted : rule ∈ collection.converted ↔
    rule ∈ collection.rules ∧ collection.isSuppressed rule = false := by
  simp [converted]

theorem convert_eq (collection : Collection) (dialect : Dialect) :
    collection.convert dialect = (do
      return (← collection.converted.mapM (collection.convertRule dialect)).flatten) :=
  rfl

/-- The run of a successful conversion: the rules that are converted on their own, in order, each
with its queries. -/
structure IsRun (collection : Collection) (dialect : Dialect) (run : List (Rule × List String)) :
    Prop where
  rules : run.map Prod.fst = collection.converted
  queries : ∀ step ∈ run, collection.convertRule dialect step.1 = .ok step.2

theorem convert_eq_ok_iff {queries : List String} :
    collection.convert dialect = .ok queries ↔
      ∃ run, collection.IsRun dialect run ∧ queries = run.flatMap Prod.snd := by
  rw [convert_eq]
  constructor
  · intro h
    obtain ⟨outputs, houtputs, h⟩ := bind_eq_ok_iff.mp h
    cases h
    obtain ⟨run, rules, rfl, steps⟩ := mapM_eq_ok_iff.mp houtputs
    exact ⟨run, ⟨rules, steps⟩, List.flatMap_def.symm⟩
  · rintro ⟨run, ⟨rules, steps⟩, rfl⟩
    rw [mapM_eq_ok_iff.mpr ⟨run, rules, rfl, steps⟩, List.flatMap_def]
    rfl

end Collection

/-! ### A few rules -/

/-- A rule of which only the name and what it asks for are told. -/
def Rule.ofName (name : String) (body : Rule.Body) : Rule where
  id := none
  name := name
  description := none
  references := none
  author := none
  date := none
  modified := none
  status := none
  license := none
  tags := none
  falsePositives := none
  level := none
  title := name
  body := body

/-- A logon to a Windows machine failed. -/
def Rule.failedLogon : Rule :=
  .ofName "failed_logon" (.detection .unspecified [.fieldEquals "EventID" (.number (.int 4625))])

/-- A remote shell was opened. -/
def Rule.remoteShell : Rule :=
  .ofName "remote_shell" (.detection .unspecified [.keyword (.text (.ofText "sshd"))])

/-- All of some rules match within ten minutes. -/
def Rule.correlating (name : String) (rules : List String) (generate : Bool) : Rule :=
  .ofName name (.correlation ⟨.temporal none, rules, ⟨10, .minute⟩, none, generate⟩)

/-- Failed logons and remote shells within ten minutes, by fields of which one has an index. -/
def Rule.Correlation.intrusion : Correlation where
  type := .temporal none
  rules := ["failed_logon", "remote_shell"]
  timespan := ⟨10, .minute⟩
  groupBy := some ["host", "user[0]"]
  generate := false

end DetectionQuery
