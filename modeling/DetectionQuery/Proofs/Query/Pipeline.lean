import DetectionQuery.Query.Aggregation
import Mathlib.Data.List.Infix

/-!
Pipelines of correlations.

Every stage of a pipeline is put together from parts that are written already, and a part stands in
the text it is put into unchanged. So the query of each rule of a correlation is found in the
correlation's pipeline (`query_infix_pipeline`), whatever the correlation counts.
-/

namespace DetectionQuery.Query

open DetectionQuery.Text

/-! ### Parts of a written text -/

theorem infix_braced (body : String) : body.toList <:+: (braced body).toList :=
  ⟨['\x7b', ' '], [' ', '\x7d'], by simp [braced]⟩

theorem infix_bracketed (body : String) : body.toList <:+: (bracketed body).toList :=
  ⟨['[', ' '], [' ', ']'], by simp [bracketed]⟩

theorem infix_joined {separator part : String} {parts : List String} (mem : part ∈ parts) :
    part.toList <:+: (joined separator parts).toList := by
  induction parts with
  | nil => cases mem
  | cons first rest ih =>
    cases rest with
    | nil =>
      obtain rfl := List.mem_singleton.mp mem
      exact List.infix_rfl
    | cons next rest =>
      rw [joined, String.toList_append, String.toList_append]
      rcases List.mem_cons.mp mem with rfl | mem
      · exact (List.prefix_append _ _).isInfix.trans (List.prefix_append _ _).isInfix
      · exact (ih mem).trans (List.suffix_append _ _).isInfix

/-! ### Queries in a pipeline -/

namespace Aggregation

variable {aggregation : Aggregation} {rule : RuleQuery}

theorem query_infix_searchStage (mem : rule ∈ aggregation.rules) :
    rule.query.toList <:+: aggregation.searchStage.toList := by
  unfold searchStage
  split
  · next only rules =>
    rw [rules] at mem
    obtain rfl := List.mem_singleton.mp mem
    exact List.infix_rfl
  · have written : braced rule.query ∈ (aggregation.rules.map RuleQuery.query).map braced :=
      List.mem_map_of_mem (List.mem_map_of_mem mem)
    exact (infix_braced _).trans ((infix_joined written).trans (infix_bracketed _))

theorem query_infix_pipeline {dialect : Dialect} {stages : List String}
    (mem : rule ∈ aggregation.rules) (h : aggregation.stages dialect = .ok stages) :
    rule.query.toList <:+: (Stage.pipeline stages).toList := by
  have first : aggregation.searchStage ∈ stages := by
    unfold Aggregation.stages at h
    split at h
    · cases h
    · cases h
      exact List.mem_cons_self
  exact (query_infix_searchStage mem).trans ((infix_joined first).trans (infix_bracketed _))

end Aggregation

end DetectionQuery.Query
