import DetectionQuery.Collection.Load
import DetectionQuery.Proofs.Collection.Lookup
import Mathlib.Logic.Relation

/-!
Collections that grow at their end.

Rules that are added to a collection, one by one, with another collection or from files (`Grows`),
stand behind the rules that are there. A reference that is found stands for its first rule, so rules
behind it do not change what it stands for (`ruleQuery_append`). The references of a correlation are
looked up in order and the first one that fails decides, so a conversion that did not miss a rule is
the same in every collection that grew out of the first (`convertRule_of_grown`).
-/

namespace DetectionQuery.Collection

open DetectionQuery.Folder (Entry)
open DetectionQuery.Query (Dialect)
open Relation (ReflTransGen)

variable {collection larger : Collection} {dialect : Dialect} {rule : Rule} {reference : String}

/-! ### Growing -/

/-- One way in which a collection gets more rules. -/
inductive Grows (collection : Collection) : Collection → Prop where
  | added (rule : Rule) : Grows collection (collection.add rule)
  | extended (more : Collection) : Grows collection (collection ++ more)
  | loaded {root : Entry} {path : String} {found : Collection} {notices : List Notice} :
      load root path = .ok (found, notices) → Grows collection (collection ++ found)

theorem Grows.exists_append (h : collection.Grows larger) :
    ∃ more, larger = collection ++ more := by
  cases h with
  | added rule => exact ⟨⟨[rule]⟩, rfl⟩
  | extended more => exact ⟨more, rfl⟩
  | loaded => exact ⟨_, rfl⟩

theorem append_assoc (first second third : Collection) :
    first ++ second ++ third = first ++ (second ++ third) :=
  congrArg Collection.mk (List.append_assoc first.rules second.rules third.rules)

theorem append_empty (collection : Collection) : collection ++ empty = collection :=
  congrArg Collection.mk (List.append_nil collection.rules)

/-- However a collection grew, its rules are still the first ones. -/
theorem exists_append_of_grown (h : ReflTransGen Grows collection larger) :
    ∃ more, larger = collection ++ more := by
  induction h with
  | refl => exact ⟨empty, (append_empty collection).symm⟩
  | tail _ step ih =>
    obtain ⟨more, rfl⟩ := ih
    obtain ⟨further, rfl⟩ := step.exists_append
    exact ⟨more ++ further, append_assoc collection more further⟩

/-! ### Conversion with more rules behind -/

theorem ruleQuery_of_find?_eq_none (h : collection.find? reference = none) :
    collection.ruleQuery dialect reference = .error (.unknownReference reference) := by
  simp only [ruleQuery, h]

/-- A reference that is not missing keeps what it stands for. -/
theorem ruleQuery_append (more : Collection)
    (known : collection.ruleQuery dialect reference ≠ .error (.unknownReference reference)) :
    (collection ++ more).ruleQuery dialect reference = collection.ruleQuery dialect reference := by
  cases found : collection.find? reference with
  | none => exact absurd (ruleQuery_of_find?_eq_none found) known
  | some first =>
    have same : (collection ++ more).find? reference = some first := by
      rw [find?_append, found, Option.some_or]
    simp only [ruleQuery, same, found]

/-- A conversion in which no reference is missing is the same with more rules behind. -/
theorem convertRule_append (more : Collection)
    (known : ∀ reference,
      collection.convertRule dialect rule ≠ .error (.unknownReference reference)) :
    (collection ++ more).convertRule dialect rule = collection.convertRule dialect rule := by
  unfold convertRule at known ⊢
  split at known
  · rfl
  · next correlation body =>
    have steps : correlation.rules.mapM (collection.ruleQuery dialect) =
        correlation.rules.mapM ((collection ++ more).ruleQuery dialect) := by
      refine mapM_congr_of_not_lost (fun e => ∃ reference, e = .unknownReference reference) ?_ ?_
      · intro reference _ found
        exact (ruleQuery_append more (found _ ⟨reference, rfl⟩)).symm
      · rintro _ ⟨reference, rfl⟩ missed
        refine known reference ?_
        simp only [aggregation, missed]
        rfl
    simp only [aggregation, steps]

/-- **Rules that are added do not change a conversion.** If converting a rule in a collection gives
its queries, or fails for any other reason than a missing rule, then it gives the same queries or
the same error with any rules behind the collection, and so it does after any number of additions of
single rules, of collections and of what is loaded from files. -/
theorem convertRule_of_grown
    (known : ∀ reference,
      collection.convertRule dialect rule ≠ .error (.unknownReference reference)) :
    (∀ more : Collection,
      (collection ++ more).convertRule dialect rule = collection.convertRule dialect rule) ∧
    (∀ larger, ReflTransGen Grows collection larger →
      larger.convertRule dialect rule = collection.convertRule dialect rule) := by
  refine ⟨fun more => convertRule_append more known, fun larger grown => ?_⟩
  obtain ⟨more, rfl⟩ := exists_append_of_grown grown
  exact convertRule_append more known

/-- A correlation keeps its pipeline, and one over a correlation keeps its error, when rules of the
same names are added. -/
theorem convertRule_of_grown_shared : ∃ (collection : Collection) (queries : List String),
    collection.convertRule .mongoDB (.correlating "guessing" ["failed_logon"] false) =
      .ok queries ∧
    (collection ++ ⟨[{ Rule.remoteShell with name := "failed_logon" }]⟩).convertRule .mongoDB
      (.correlating "guessing" ["failed_logon"] false) = .ok queries ∧
    (collection.add { Rule.remoteShell with name := "guessing" }).convertRule .mongoDB
      (.correlating "nested" ["guessing"] false) = .error (.nestedCorrelation "guessing") := by
  obtain ⟨queries, converted⟩ : ∃ queries,
      convertRule ⟨[.failedLogon, .correlating "guessing" ["failed_logon"] false]⟩ .mongoDB
        (.correlating "guessing" ["failed_logon"] false) = .ok queries := ⟨_, rfl⟩
  have failed :
      convertRule ⟨[.failedLogon, .correlating "guessing" ["failed_logon"] false]⟩ .mongoDB
        (.correlating "nested" ["guessing"] false) = .error (.nestedCorrelation "guessing") := rfl
  refine ⟨_, queries, converted, ?_, ?_⟩
  · rw [(convertRule_of_grown (by simp [converted])).1, converted]
  · rw [(convertRule_of_grown (by simp [failed])).2 _ (.single (.added _)), failed]

end DetectionQuery.Collection
