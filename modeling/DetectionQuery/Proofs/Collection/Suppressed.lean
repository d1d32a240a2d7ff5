import DetectionQuery.Proofs.Collection.Lookup
import DetectionQuery.Proofs.Query.Pipeline
import Mathlib.Data.List.Flatten

/-!
Rules that are not converted on their own.

A correlation that does not set `generate` keeps the rules it refers to from being converted on
their own. Two things follow from what the flag is for.

* Setting the flag of one correlation only adds queries: those of the rules that nothing else keeps
  back, each where its rule stands (`convert_generating`).
* A rule that is kept back is still part of the pipeline that the correlation is converted to
  (`suppressed_rule_embedded`). This needs the correlation to be converted itself and the rule to be
  the first one of its reference: a correlation may keep itself back (`suppressed_rule_lost`).
-/

namespace DetectionQuery

open DetectionQuery.Query (Dialect)
open DetectionQuery.Rule (Correlation)

/-! ### Setting the flag of a correlation -/

/-- A rule whose correlation, if it is one, has the rules it refers to converted on their own. -/
def Rule.generating (rule : Rule) : Rule :=
  match rule.body with
  | .detection _ _ => rule
  | .correlation correlation =>
    { rule with body := .correlation { correlation with generate := true } }

namespace Collection

variable {dialect : Dialect}

/-- Whether a rule is named by a correlation and by no correlation among the other rules that keeps
rules back. -/
def namedOnlyBy (correlation : Correlation) (others : List Rule) (rule : Rule) : Bool :=
  correlation.rules.any rule.isReferencedBy && !isSuppressed ⟨others⟩ rule

theorem isReferencedBy_generating (rule : Rule) (reference : String) :
    rule.generating.isReferencedBy reference = rule.isReferencedBy reference := by
  unfold Rule.generating
  split
  · rfl
  · rfl

section

variable {before after : List Rule} {user : Rule} {correlation : Correlation}

theorem body_generating (body : user.body = .correlation correlation) :
    user.generating.body = .correlation { correlation with generate := true } := by
  simp only [Rule.generating, body]

/-- A correlation is converted alike whether or not its flag is set. -/
theorem convertRule_generating (collection : Collection)
    (body : user.body = .correlation correlation) :
    collection.convertRule dialect user.generating = collection.convertRule dialect user := by
  simp only [convertRule, body_generating body, body]
  rfl

/-- A reference stands for the same query whether or not the flag of a correlation is set: one that
finds this correlation stands for no query in either case. -/
theorem ruleQuery_generating (body : user.body = .correlation correlation) (reference : String) :
    ruleQuery ⟨before ++ user.generating :: after⟩ dialect reference =
      ruleQuery ⟨before ++ user :: after⟩ dialect reference := by
  unfold ruleQuery find?
  simp only [List.find?_append, List.find?_cons, isReferencedBy_generating]
  cases before.find? (·.isReferencedBy reference) with
  | some rule => rfl
  | none =>
    cases user.isReferencedBy reference with
    | false => rfl
    | true => simp only [Option.none_or, body_generating body, body]

/-- A rule is kept back by one of the rules or by the others. -/
theorem isSuppressed_insert (before after : List Rule) (user rule : Rule) :
    isSuppressed ⟨before ++ user :: after⟩ rule =
      ((suppressedBy user).any rule.isReferencedBy || isSuppressed ⟨before ++ after⟩ rule) := by
  simp only [isSuppressed, suppressed, List.flatMap_append, List.flatMap_cons, List.any_append,
    Bool.or_left_comm]

/-- Without the flag, the rules that only this correlation names are kept back as well. -/
theorem isSuppressed_not_generating (body : user.body = .correlation correlation)
    (flag : correlation.generate = false) (rule : Rule) :
    isSuppressed ⟨before ++ user :: after⟩ rule =
      (isSuppressed ⟨before ++ user.generating :: after⟩ rule ||
        namedOnlyBy correlation (before ++ after) rule) := by
  have all : suppressedBy user = correlation.rules := by
    simp [suppressedBy, body, flag]
  have none : suppressedBy user.generating = [] := by
    simp [suppressedBy, body_generating body]
  rw [isSuppressed_insert, isSuppressed_insert, all, none, List.any_nil, Bool.false_or, namedOnlyBy]
  cases isSuppressed ⟨before ++ after⟩ rule with
  | false => simp
  | true => simp

/-- Without the flag, the rules that only this correlation names are left out. -/
theorem convert_not_generating (body : user.body = .correlation correlation)
    (flag : correlation.generate = false) :
    convert ⟨before ++ user :: after⟩ dialect = (do
      return (← ((converted ⟨before ++ user.generating :: after⟩).filter fun rule =>
        !namedOnlyBy correlation (before ++ after) rule).mapM
          (convertRule ⟨before ++ user.generating :: after⟩ dialect)).flatten) := by
  have rules : (converted ⟨before ++ user.generating :: after⟩).filter (fun rule =>
      !namedOnlyBy correlation (before ++ after) rule) =
      (before ++ user.generating :: after).filter fun rule =>
        !isSuppressed ⟨before ++ user :: after⟩ rule := by
    rw [converted, List.filter_filter]
    refine List.filter_congr fun rule _ => ?_
    rw [isSuppressed_not_generating body flag, Bool.not_or, Bool.and_comm]
  have queries (rule : Rule) : convertRule ⟨before ++ user.generating :: after⟩ dialect rule =
      convertRule ⟨before ++ user :: after⟩ dialect rule :=
    convertRule_congr fun reference _ => ruleQuery_generating body reference
  -- The rule with the flag set takes the place of the one without it.
  have place (p : Rule → Bool) (f : Rule → Except Error (List String))
      (hp : p user.generating = p user) (hf : f user.generating = f user) :
      ((before ++ user.generating :: after).filter p).mapM f =
        ((before ++ user :: after).filter p).mapM f := by
    simp only [List.filter_append, List.filter_cons, hp]
    cases p user with
    | false => simp
    | true => simp [List.mapM_append, List.mapM_cons, hf]
  rw [rules, mapM_congr fun rule _ => queries rule, place _ _ _ (convertRule_generating _ body)]
  · rfl
  · simp only [isSuppressed, funext (isReferencedBy_generating user)]

/-- Without the flag, a run with the flag is gone through again without the steps of the rules that
only this correlation names. -/
theorem IsRun.convert_not_generating (body : user.body = .correlation correlation)
    (flag : correlation.generate = false) {run : List (Rule × List String)}
    (h : IsRun ⟨before ++ user.generating :: after⟩ dialect run) :
    convert ⟨before ++ user :: after⟩ dialect = .ok ((run.filter fun step =>
      !namedOnlyBy correlation (before ++ after) step.1).flatMap Prod.snd) := by
  have kept : ((converted ⟨before ++ user.generating :: after⟩).filter fun rule =>
      !namedOnlyBy correlation (before ++ after) rule).mapM
        (convertRule ⟨before ++ user.generating :: after⟩ dialect) =
      .ok ((run.filter fun step =>
        !namedOnlyBy correlation (before ++ after) step.1).map Prod.snd) := by
    refine mapM_eq_ok_iff.mpr ⟨_, ?_, rfl, fun step mem => ?_⟩
    · rw [← h.rules, List.filter_map]
      rfl
    · exact h.queries step (List.mem_filter.mp mem).1
  rw [Collection.convert_not_generating body flag, kept, List.flatMap_def]
  rfl

/-- **Setting the flag of a correlation only adds queries.** If the conversion succeeds with the
flag set, it succeeds without it, and leaves out exactly the queries of the rules that the
correlation and no other correlation without the flag names. If it fails without the flag, it fails
with it. -/
theorem convert_generating (body : user.body = .correlation correlation)
    (flag : correlation.generate = false) (dialect : Dialect) :
    (∀ all, convert ⟨before ++ user.generating :: after⟩ dialect = .ok all →
      ∃ run queries, IsRun ⟨before ++ user.generating :: after⟩ dialect run ∧
        all = run.flatMap Prod.snd ∧
        convert ⟨before ++ user :: after⟩ dialect = .ok queries ∧
        queries = (run.filter fun step =>
          !namedOnlyBy correlation (before ++ after) step.1).flatMap Prod.snd ∧
        queries.Sublist all) ∧
    (∀ error, convert ⟨before ++ user :: after⟩ dialect = .error error →
      ∃ error, convert ⟨before ++ user.generating :: after⟩ dialect = .error error) := by
  constructor
  · intro all h
    obtain ⟨run, isRun, rfl⟩ := convert_eq_ok_iff.mp h
    exact ⟨run, _, isRun, rfl, isRun.convert_not_generating body flag, rfl,
      List.filter_sublist.flatMap _⟩
  · intro error failed
    cases h : convert ⟨before ++ user.generating :: after⟩ dialect with
    | error other => exact ⟨other, rfl⟩
    | ok all =>
      obtain ⟨run, isRun, rfl⟩ := convert_eq_ok_iff.mp h
      rw [isRun.convert_not_generating body flag] at failed
      cases failed

end

/-- Of the two rules of a correlation, one is also named by another correlation and is left out in
either case. -/
theorem convert_generating_shared : ∃ all queries,
    convert ⟨[.failedLogon, .remoteShell,
      (Rule.correlating "intrusion" ["failed_logon", "remote_shell"] false).generating,
      .correlating "shells" ["remote_shell"] false]⟩ .mongoDB = .ok all ∧
    convert ⟨[.failedLogon, .remoteShell,
      .correlating "intrusion" ["failed_logon", "remote_shell"] false,
      .correlating "shells" ["remote_shell"] false]⟩ .mongoDB = .ok queries ∧
    queries.Sublist all ∧ all.length = 3 ∧ queries.length = 2 := by
  obtain ⟨-, queries, -, -, converted, -, fewer⟩ :=
    (@convert_generating [.failedLogon, .remoteShell] [.correlating "shells" ["remote_shell"] false]
      (.correlating "intrusion" ["failed_logon", "remote_shell"] false)
      ⟨.temporal none, ["failed_logon", "remote_shell"], ⟨10, .minute⟩, none, false⟩ rfl rfl
      .mongoDB).1 _ rfl
  refine ⟨_, queries, rfl, converted, fewer, rfl, ?_⟩
  cases converted
  rfl

end Collection

/-! ### Rules that are kept back -/

/-- A rule is a detection with a single condition, and its query stands in a pipeline. -/
def Rule.EmbeddedIn (rule : Rule) (dialect : Dialect) (pipeline : String) : Prop :=
  ∃ source condition query, rule.body = .detection source [condition] ∧
    dialect.render condition = .ok query ∧ query.toList <:+: pipeline.toList

namespace Collection

variable {collection : Collection} {user rule : Rule} {reference : String} {dialect : Dialect}

/-- The rules that a converted correlation finds are embedded in its pipeline. -/
theorem embeddedIn_of_convertRule {correlation : Correlation} {queries : List String}
    (body : user.body = .correlation correlation) (mem : reference ∈ correlation.rules)
    (found : collection.find? reference = some rule)
    (h : collection.convertRule dialect user = .ok queries) :
    ∃ pipeline, queries = [pipeline] ∧ rule.EmbeddedIn dialect pipeline := by
  obtain ⟨aggregation, stages, haggregation, hstages, rfl⟩ :=
    (convertRule_correlation_eq_ok_iff body).mp h
  refine ⟨_, rfl, ?_⟩
  obtain ⟨run, inputs, results, steps⟩ := mapM_eq_ok_iff.mp (rules_of_aggregation haggregation)
  obtain ⟨step, hstep, rfl⟩ := List.mem_map.mp (inputs ▸ mem)
  obtain ⟨other, source, condition, query, hother, hbody, hquery, written⟩ :=
    ruleQuery_eq_ok_iff.mp (steps step hstep)
  obtain rfl : other = rule := Option.some.inj (hother.symm.trans found)
  have part : step.2 ∈ aggregation.rules := by
    rw [← results]
    exact List.mem_map_of_mem hstep
  have stands := Query.Aggregation.query_infix_pipeline part hstages
  rw [written] at stands
  exact ⟨source, condition, query, hbody, hquery, stands⟩

/-- **Rules that are kept back stay part of the output.** A rule that a correlation keeps back is a
detection whose query stands in the pipeline of that correlation, if the correlation is converted
itself and the rule is the first one of the reference. -/
theorem suppressed_rule_embedded {queries : List String}
    (hconvert : collection.convert dialect = .ok queries)
    (hsuppresses : collection.Suppresses user reference rule)
    (kept : collection.isSuppressed user = false)
    (first : collection.find? reference = some rule) :
    ∃ pipeline ∈ queries, collection.convertRule dialect user = .ok [pipeline] ∧
      rule.EmbeddedIn dialect pipeline := by
  obtain ⟨run, isRun, rfl⟩ := convert_eq_ok_iff.mp hconvert
  have mem : user ∈ run.map Prod.fst := by
    rw [isRun.rules]
    exact mem_converted.mpr ⟨hsuppresses.mem, kept⟩
  obtain ⟨step, hstep, rfl⟩ := List.mem_map.mp mem
  have outcome := isRun.queries step hstep
  obtain ⟨correlation, body, -, href⟩ := mem_suppressedBy_iff.mp hsuppresses.mem_suppressedBy
  obtain ⟨pipeline, only, embedded⟩ := embeddedIn_of_convertRule body href first outcome
  refine ⟨pipeline, List.mem_flatMap.mpr ⟨step, hstep, ?_⟩, only ▸ outcome, embedded⟩
  rw [only]
  exact List.mem_singleton.mpr rfl

theorem suppressed_rule_embedded_logon : ∃ queries,
    convert ⟨[.failedLogon, .correlating "guessing" ["failed_logon"] false]⟩ .mongoDB =
      .ok queries ∧
    ∃ pipeline ∈ queries, Rule.failedLogon.EmbeddedIn .mongoDB pipeline := by
  obtain ⟨queries, converted⟩ : ∃ queries,
      convert ⟨[.failedLogon, .correlating "guessing" ["failed_logon"] false]⟩ .mongoDB =
        .ok queries := ⟨_, rfl⟩
  have suppresses : Suppresses ⟨[.failedLogon, .correlating "guessing" ["failed_logon"] false]⟩
      (.correlating "guessing" ["failed_logon"] false) "failed_logon" .failedLogon :=
    ⟨by simp, List.mem_singleton.mpr rfl, rfl⟩
  obtain ⟨pipeline, mem, -, embedded⟩ := suppressed_rule_embedded converted suppresses rfl rfl
  exact ⟨queries, converted, pipeline, mem, embedded⟩

/-- A correlation that refers to itself keeps itself back, and with it the rules that it should have
been converted with: nothing is left of either. -/
theorem suppressed_rule_lost : ¬ ∀ (collection : Collection) (dialect : Dialect) (queries),
    collection.convert dialect = .ok queries → ∀ rule ∈ collection.rules,
      collection.isSuppressed rule = true →
        ∃ pipeline ∈ queries, rule.EmbeddedIn dialect pipeline := by
  intro embedded
  obtain ⟨pipeline, mem, -⟩ := embedded
    ⟨[.failedLogon, .correlating "loop" ["failed_logon", "loop"] false]⟩ .mongoDB [] rfl
    .failedLogon (by simp) rfl
  cases mem

-- Nor is anything left of a rule that shares its name with an earlier one.
example : convert ⟨[.failedLogon, { Rule.remoteShell with name := "failed_logon" },
      .correlating "guessing" ["failed_logon"] false]⟩ .mongoDB =
    convert ⟨[.failedLogon, .correlating "guessing" ["failed_logon"] false]⟩ .mongoDB :=
  rfl

end Collection

end DetectionQuery
