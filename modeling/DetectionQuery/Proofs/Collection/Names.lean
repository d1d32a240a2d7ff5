import DetectionQuery.Proofs.Collection.Lookup
import DetectionQuery.Proofs.Query.Stages

/-!
Names in the pipeline of a correlation.

Three kinds of names are written into a pipeline as they are: the identifiers of rules and the field
whose values are counted between quotes, and the fields that events are grouped by without any. If
none of them leaves its place (`NamesStay`), the brackets and quotes of a pipeline match as soon as
those of its queries do (`passes_of_convertRule`). No conversion refuses other names, so without
this condition a single name can leave a literal open (`name_breaks_out`).
-/

namespace DetectionQuery

open DetectionQuery.Query (Aggregation Dialect Stage.collectValues Stage.grouping Stage.matching
  Stage.pipeline Stage.typing Stage.typingBranch)
open DetectionQuery.Rule (Correlation Measure Threshold)
open DetectionQuery.Text (Passes braced bracketed inQuotes joined member)

/-! ### Where the names come from -/

/-- What a correlation counts is told by its type, and a field that it counts by its condition. -/
theorem Rule.Correlation.type_of_measure {correlation : Correlation} {measure : Measure}
    {threshold : Threshold} (h : correlation.measure = .ok (measure, threshold)) :
    match measure with
    | .eventCount => ∃ condition, correlation.type = .eventCount condition
    | .valueCount field =>
      ∃ condition, correlation.type = .valueCount condition ∧ condition.field = some field
    | .temporal => ∃ condition, correlation.type = .temporal condition := by
  unfold Correlation.measure at h
  split at h
  · next condition type =>
    obtain ⟨_, -, result⟩ := bind_eq_ok_iff.mp h
    cases result
    exact ⟨condition, type⟩
  · next condition type =>
    split at h
    · next field hfield =>
      obtain ⟨_, -, result⟩ := bind_eq_ok_iff.mp h
      cases result
      exact ⟨condition, type, hfield⟩
    · cases h
  · next condition type =>
    obtain ⟨_, -, result⟩ := bind_eq_ok_iff.mp h
    cases result
    exact ⟨some condition, type⟩
  · next type =>
    cases h
    exact ⟨none, type⟩
  · cases h

theorem Rule.Correlation.groupFields_getD (correlation : Correlation) :
    correlation.groupFields.getD [] = correlation.groupBy.getD [] := by
  unfold groupFields
  cases correlation.groupBy with
  | none => rfl
  | some fields => cases fields <;> rfl

namespace Collection

variable {collection : Collection} {dialect : Dialect} {correlation : Correlation} {rule : Rule}

/-- The brackets and quotes of the queries match that the references of a correlation stand for. -/
def QueriesPass (collection : Collection) (dialect : Dialect) (correlation : Correlation) : Prop :=
  ∀ reference ∈ correlation.rules, ∀ found,
    collection.ruleQuery dialect reference = .ok found → Passes .outside found.query

/-- No name of a correlation leaves its place in the pipeline. -/
structure NamesStay (collection : Collection) (correlation : Correlation) : Prop where
  /-- The identifiers of rules are written only if rules are counted. -/
  identifiers : ∀ condition, correlation.type = .temporal condition →
    ∀ reference ∈ correlation.rules, ∀ rule, collection.find? reference = some rule →
      Passes .quoted (rule.identifier.getD reference)
  counted : ∀ condition field, correlation.type = .valueCount condition →
    condition.field = some field → Passes .quoted field
  groupBy : ∀ field ∈ correlation.groupBy.getD [], Passes .outside field

theorem NamesStay.identifier (names : collection.NamesStay correlation)
    {aggregation : Aggregation}
    (h : collection.aggregation dialect correlation = .ok aggregation)
    (temporal : aggregation.measure = .temporal) :
    ∀ rule ∈ aggregation.rules, Passes .quoted rule.identifier := by
  obtain ⟨rules, measure, -⟩ := aggregation_eq_ok_iff.mp h
  rw [temporal] at measure
  obtain ⟨condition, type⟩ := Rule.Correlation.type_of_measure measure
  refine forall_of_mapM rules fun reference mem found hfound => ?_
  obtain ⟨rule, _, _, _, hrule, -, -, rfl⟩ := ruleQuery_eq_ok_iff.mp hfound
  exact names.identifiers condition type reference mem rule hrule

theorem NamesStay.fieldStays (names : collection.NamesStay correlation)
    {aggregation : Aggregation}
    (h : collection.aggregation dialect correlation = .ok aggregation) :
    aggregation.FieldStays := by
  obtain ⟨-, measure, -⟩ := aggregation_eq_ok_iff.mp h
  intro field counts
  rw [counts] at measure
  obtain ⟨condition, type, hfield⟩ := Rule.Correlation.type_of_measure measure
  exact names.counted condition field type hfield

/-- **Names that stay in their places leave a pipeline whole.** If the queries that the references
of a correlation stand for are balanced, if the identifiers of its rules (where rules are counted)
and the field it counts do not leave the quotes they are put between, and if the fields it groups by
are balanced, then converting the correlation gives one pipeline, and every bracket and every
literal that is opened in it is closed. -/
theorem passes_of_convertRule {queries : List String}
    (body : rule.body = .correlation correlation)
    (tokens : ∀ comparison, Passes .outside (dialect.comparisonToken comparison))
    (balanced : collection.QueriesPass dialect correlation)
    (names : collection.NamesStay correlation)
    (converted : collection.convertRule dialect rule = .ok queries) :
    ∃ pipeline, queries = [pipeline] ∧ Passes .outside pipeline := by
  obtain ⟨aggregation, stages, haggregation, hstages, rfl⟩ :=
    (convertRule_correlation_eq_ok_iff body).mp converted
  obtain ⟨rules, -, -, groups⟩ := aggregation_eq_ok_iff.mp haggregation
  refine ⟨_, rfl, Aggregation.passes_pipeline hstages tokens (forall_of_mapM rules balanced)
    (names.identifier haggregation) (names.fieldStays haggregation) ?_⟩
  rw [← groups, correlation.groupFields_getD]
  exact names.groupBy

theorem passes_of_convertRule_intrusion :
    QueriesPass ⟨[.failedLogon, .remoteShell]⟩ .mongoDB .intrusion ∧
    NamesStay ⟨[.failedLogon, .remoteShell]⟩ .intrusion ∧
    ∃ pipeline, convertRule ⟨[.failedLogon, .remoteShell]⟩ .mongoDB
      (.ofName "intrusion" (.correlation .intrusion)) = .ok [pipeline] ∧
      Passes .outside pipeline := by
  have balanced : QueriesPass ⟨[.failedLogon, .remoteShell]⟩ .mongoDB .intrusion := by
    intro reference mem found hfound
    simp only [Rule.Correlation.intrusion, List.mem_cons, List.not_mem_nil, or_false] at mem
    rcases mem with rfl | rfl
    · cases Except.ok.inj hfound
      decide
    · cases Except.ok.inj hfound
      decide
  have names : NamesStay ⟨[.failedLogon, .remoteShell]⟩ .intrusion := by
    refine ⟨fun _ _ reference mem rule hrule => ?_, nofun, fun field mem => ?_⟩
    · simp only [Rule.Correlation.intrusion, List.mem_cons, List.not_mem_nil, or_false] at mem
      rcases mem with rfl | rfl
      · cases Option.some.inj hrule
        decide
      · cases Option.some.inj hrule
        decide
    · simp only [Rule.Correlation.intrusion, Option.getD_some, List.mem_cons, List.not_mem_nil,
        or_false] at mem
      rcases mem with rfl | rfl <;> decide
  obtain ⟨pipeline, converted⟩ : ∃ pipeline, convertRule ⟨[.failedLogon, .remoteShell]⟩ .mongoDB
      (.ofName "intrusion" (.correlation .intrusion)) = .ok [pipeline] := ⟨_, rfl⟩
  obtain ⟨_, same, passes⟩ :=
    passes_of_convertRule rfl Dialect.passes_comparisonToken balanced names converted
  cases same
  exact ⟨balanced, names, pipeline, converted, passes⟩

/-- The name of a rule can end the literal it is put into: what follows the quote in this name is
read outside of it, and the quote that should have closed the literal opens another. -/
theorem name_breaks_out : ¬ ∀ (collection : Collection) (rule : Rule) (correlation : Correlation)
    (queries : List String), rule.body = .correlation correlation →
    collection.QueriesPass .mongoDB correlation →
    collection.convertRule .mongoDB rule = .ok queries →
    ∀ pipeline ∈ queries, Passes .outside pipeline := by
  intro whole
  have balanced : QueriesPass ⟨[{ Rule.failedLogon with name := "failed\"logon" }]⟩ .mongoDB
      ⟨.temporal none, ["failed\"logon"], ⟨10, .minute⟩, none, false⟩ := by
    intro reference mem found hfound
    obtain rfl := List.mem_singleton.mp mem
    cases Except.ok.inj hfound
    decide
  have converted : convertRule ⟨[{ Rule.failedLogon with name := "failed\"logon" }]⟩ .mongoDB
      (.correlating "guessing" ["failed\"logon"] false) = .ok [Stage.pipeline [
        "\x7b \"EventID\": 4625 \x7d",
        Stage.typing [Stage.typingBranch "\x7b \"EventID\": 4625 \x7d" "failed\"logon"],
        Stage.grouping "minute" (Stage.collectValues "event_type_count" "event_type") "",
        Stage.matching "event_type_count" "$gte" 1]] := rfl
  have passes := whole _ _ _ _ rfl balanced converted _ (List.mem_singleton.mpr rfl)
  unfold Passes at passes
  simp only [Stage.pipeline, Stage.typing, Stage.typingBranch, Stage.grouping, Stage.collectValues,
    Stage.matching, bracketed, braced, member, inQuotes, joined, String.toList_append] at passes
  revert passes
  decide +kernel

end Collection

end DetectionQuery
