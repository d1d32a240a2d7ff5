import DetectionQuery.Proofs.Collection.Resolution

/-!
The bound of a temporal correlation without a condition.

Such a correlation asks for as many rules as it has references, and what it asks to be counted are
the identifiers under which the events of a group are to be recorded (`Aggregation.recorded`). The
two agree as long as no two references stand for rules with the same identifier
(`Collection.TellsApart`): then the bound is reached exactly if each rule is recorded, and otherwise
it is never reached (`Collection.default_threshold_reached_iff`). A reference that is repeated is
enough for that (`Collection.default_threshold_exceeds_identifiers`).

`eventType`, `recorded` and `Keeps` say what a correlation asks for, in terms of the rules and the
bound that an aggregation holds. How a database evaluates the stages that are written for it is not
modelled, so nothing here is about the text of `typingStage`, `groupStage` and `matchStage`.
-/

namespace DetectionQuery

open DetectionQuery.Query (Aggregation Comparison Dialect RuleQuery)
open DetectionQuery.Rule (Correlation Threshold)

/-! ### What a correlation asks to be counted -/

/-- Whether a count compares with a bound as asked for. -/
def Query.Comparison.Holds : Comparison → (count bound : Nat) → Prop
  | .lt, count, bound => count < bound
  | .lte, count, bound => count ≤ bound
  | .gt, count, bound => bound < count
  | .gte, count, bound => bound ≤ count
  | .eq, count, bound => count = bound

/-- The count satisfies the bound. -/
def Rule.Threshold.Admits (threshold : Threshold) (count : Nat) : Prop :=
  threshold.comparison.Holds count threshold.count

namespace Query.Aggregation

variable {Event : Type}

/-- The identifiers that a correlation asks to record events under. -/
def identifiers (aggregation : Aggregation) : Finset String :=
  (aggregation.rules.map RuleQuery.identifier).toFinset

/-- The identifier that the correlation asks to record an event under: that of the first rule whose
query the event matches. -/
def eventType (aggregation : Aggregation) (isMatch : String → Event → Bool) (event : Event) :
    Option String :=
  (aggregation.rules.find? fun rule => isMatch rule.query event).map RuleQuery.identifier

/-- The identifiers that the correlation asks to record the events of a group under. -/
def recorded (aggregation : Aggregation) (isMatch : String → Event → Bool) (events : List Event) :
    Finset String :=
  (events.filterMap (aggregation.eventType isMatch)).toFinset

/-- The correlation asks for a group of events: the number of its identifiers satisfies the
bound. -/
def Keeps (aggregation : Aggregation) (isMatch : String → Event → Bool) (events : List Event) :
    Prop :=
  aggregation.threshold.Admits (aggregation.recorded isMatch events).card

variable {aggregation : Aggregation} {isMatch : String → Event → Bool} {events : List Event}

theorem mem_recorded_iff {identifier : String} :
    identifier ∈ aggregation.recorded isMatch events ↔
      ∃ event ∈ events, aggregation.eventType isMatch event = some identifier := by
  simp [recorded]

/-- An event is recorded for a rule whose query it matches. -/
theorem exists_rule_of_eventType {event : Event} {identifier : String}
    (h : aggregation.eventType isMatch event = some identifier) :
    ∃ rule ∈ aggregation.rules, isMatch rule.query event = true ∧ rule.identifier = identifier := by
  obtain ⟨rule, found, same⟩ := Option.map_eq_some_iff.mp h
  exact ⟨rule, List.mem_of_find?_eq_some found, by simpa using List.find?_some found, same⟩

theorem recorded_subset : aggregation.recorded isMatch events ⊆ aggregation.identifiers := by
  intro identifier mem
  obtain ⟨event, -, found⟩ := mem_recorded_iff.mp mem
  obtain ⟨rule, hrule, -, rfl⟩ := exists_rule_of_eventType found
  exact List.mem_toFinset.mpr (List.mem_map_of_mem hrule)

theorem card_identifiers_le (aggregation : Aggregation) :
    aggregation.identifiers.card ≤ aggregation.rules.length := by
  simpa [identifiers] using List.toFinset_card_le (aggregation.rules.map RuleQuery.identifier)

theorem card_identifiers_eq_iff : aggregation.identifiers.card = aggregation.rules.length ↔
    (aggregation.rules.map RuleQuery.identifier).Nodup := by
  have length : (aggregation.rules.map RuleQuery.identifier).length = aggregation.rules.length :=
    List.length_map _
  rw [identifiers, ← length]
  exact Multiset.toFinset_card_eq_card_iff_nodup

/-- As many identifiers as rules are recorded exactly if the rules have identifiers of their own,
and each of them is recorded. -/
theorem length_le_card_recorded_iff :
    aggregation.rules.length ≤ (aggregation.recorded isMatch events).card ↔
      (aggregation.rules.map RuleQuery.identifier).Nodup ∧
        ∀ rule ∈ aggregation.rules, ∃ event ∈ events,
          aggregation.eventType isMatch event = some rule.identifier := by
  have subset : aggregation.recorded isMatch events ⊆ aggregation.identifiers := recorded_subset
  simp only [← mem_recorded_iff, ← card_identifiers_eq_iff]
  constructor
  · intro reached
    have fewer := Finset.card_le_card subset
    have most := aggregation.card_identifiers_le
    have all := Finset.eq_of_subset_of_card_le subset (most.trans reached)
    refine ⟨most.antisymm (reached.trans fewer), fun rule mem => ?_⟩
    rw [all]
    exact List.mem_toFinset.mpr (List.mem_map_of_mem mem)
  · rintro ⟨distinct, all⟩
    rw [← distinct]
    refine Finset.card_le_card fun identifier mem => ?_
    obtain ⟨rule, hrule, rfl⟩ := List.mem_map.mp (List.mem_toFinset.mp mem)
    exact all rule hrule

/-- No event of a group matches the queries of two rules. -/
def Separates (aggregation : Aggregation) (isMatch : String → Event → Bool) (events : List Event) :
    Prop :=
  ∀ event ∈ events, ∀ first ∈ aggregation.rules, ∀ second ∈ aggregation.rules,
    isMatch first.query event = true → isMatch second.query event = true → first = second

theorem isMatch_of_eventType {rule : RuleQuery} {event : Event}
    (distinct : (aggregation.rules.map RuleQuery.identifier).Nodup) (mem : rule ∈ aggregation.rules)
    (h : aggregation.eventType isMatch event = some rule.identifier) :
    isMatch rule.query event = true := by
  obtain ⟨found, hfound, matched, same⟩ := exists_rule_of_eventType h
  rwa [← List.inj_on_of_nodup_map distinct hfound mem same]

theorem eventType_of_isMatch {rule : RuleQuery} {event : Event}
    (separates : aggregation.Separates isMatch events) (hevent : event ∈ events)
    (mem : rule ∈ aggregation.rules) (h : isMatch rule.query event = true) :
    aggregation.eventType isMatch event = some rule.identifier := by
  cases htype : aggregation.eventType isMatch event with
  | none =>
    have unmatched := List.find?_eq_none.mp (Option.map_eq_none_iff.mp htype) rule mem
    exact absurd h unmatched
  | some identifier =>
    obtain ⟨found, hfound, matched, rfl⟩ := exists_rule_of_eventType htype
    rw [separates event hevent found hfound rule mem matched h]

end Query.Aggregation

/-! ### References -/

namespace Collection

variable {collection : Collection} {dialect : Dialect} {correlation : Correlation}
  {aggregation : Aggregation}

/-- The identifier of the rule that a reference stands for. -/
def identifierOf (collection : Collection) (reference : String) : Option String :=
  (collection.find? reference).bind Rule.identifier

/-- No two references stand for rules with the same identifier, so none is repeated either. -/
def TellsApart (collection : Collection) (references : List String) : Prop :=
  references.Pairwise fun first second =>
    collection.identifierOf first ≠ collection.identifierOf second

instance (references : List String) : Decidable (collection.TellsApart references) :=
  inferInstanceAs (Decidable (references.Pairwise _))

theorem identifierOf_of_isQueryOf {reference : String} {found : RuleQuery}
    (h : collection.IsQueryOf dialect reference found) :
    collection.identifierOf reference = some found.identifier := by
  obtain ⟨rule, source, condition, first, -, -, identifier⟩ := h
  rw [identifierOf, find?_eq_some_iff.mpr first]
  exact identifier

theorem map_identifierOf {references : List String} {rules : List RuleQuery}
    (h : List.Forall₂ (collection.IsQueryOf dialect) references rules) :
    references.map collection.identifierOf = (rules.map RuleQuery.identifier).map some := by
  induction h with
  | nil => rfl
  | cons head _ ih =>
    rw [List.map_cons, List.map_cons, List.map_cons, identifierOf_of_isQueryOf head, ih]

/-- The rules of an aggregation have identifiers of their own exactly if its references are told
apart. -/
theorem nodup_identifiers_iff
    (resolved : collection.aggregation dialect correlation = .ok aggregation) :
    (aggregation.rules.map RuleQuery.identifier).Nodup ↔
      collection.TellsApart correlation.rules := by
  have queries := mapM_eq_ok_iff_forall₂.mp (rules_of_aggregation resolved)
  simp only [ruleQuery_eq_ok_iff_isQueryOf] at queries
  have apart : collection.TellsApart correlation.rules ↔
      (correlation.rules.map collection.identifierOf).Nodup := List.pairwise_map.symm
  rw [apart, map_identifierOf queries, List.nodup_map_iff (Option.some_injective _)]

/-- Without a condition, the bound is the number of references. -/
theorem threshold_of_unset (unset : correlation.type = .temporal none)
    (resolved : collection.aggregation dialect correlation = .ok aggregation) :
    aggregation.measure = .temporal ∧ aggregation.threshold = ⟨.gte, aggregation.rules.length⟩ := by
  obtain ⟨rules, measured, -, -⟩ := aggregation_eq_ok_iff.mp resolved
  rw [Correlation.measure, unset, ← length_of_mapM rules] at measured
  simp only [Except.ok.injEq, Prod.mk.injEq] at measured
  exact ⟨measured.1.symm, measured.2.symm⟩

theorem threshold_eq_iff (unset : correlation.type = .temporal none)
    (resolved : collection.aggregation dialect correlation = .ok aggregation) :
    aggregation.threshold = ⟨.gte, aggregation.identifiers.card⟩ ↔
      collection.TellsApart correlation.rules := by
  rw [(threshold_of_unset unset resolved).2, ← nodup_identifiers_iff resolved,
    ← Aggregation.card_identifiers_eq_iff, Threshold.mk.injEq, and_iff_right rfl]
  exact eq_comm

/-- **The bound of a temporal correlation without a condition.** It asks for as many rules as there
are identifiers exactly if the references are told apart. A group of events reaches it exactly if
the references are told apart and each of the rules is recorded for one of the events; so if they
are not told apart, no group ever does. A rule is recorded if an event matches its query and that of
no other rule. -/
theorem default_threshold_reached_iff (unset : correlation.type = .temporal none)
    (resolved : collection.aggregation dialect correlation = .ok aggregation) :
    aggregation.measure = .temporal ∧
    (aggregation.threshold = ⟨.gte, aggregation.identifiers.card⟩ ↔
      collection.TellsApart correlation.rules) ∧
    ∀ {Event : Type} (isMatch : String → Event → Bool) (events : List Event),
      (aggregation.Keeps isMatch events ↔
        collection.TellsApart correlation.rules ∧
        ∀ rule ∈ aggregation.rules, ∃ event ∈ events,
          aggregation.eventType isMatch event = some rule.identifier) ∧
      (aggregation.Separates isMatch events →
        (aggregation.Keeps isMatch events ↔
          collection.TellsApart correlation.rules ∧
          ∀ rule ∈ aggregation.rules, ∃ event ∈ events, isMatch rule.query event = true)) := by
  obtain ⟨measure, threshold⟩ := threshold_of_unset unset resolved
  refine ⟨measure, threshold_eq_iff unset resolved, fun isMatch events => ?_⟩
  rw [← nodup_identifiers_iff resolved, Aggregation.Keeps, threshold]
  have reached := @Aggregation.length_le_card_recorded_iff _ aggregation isMatch events
  refine ⟨reached, fun separates => reached.trans (and_congr_right fun distinct => ?_)⟩
  refine forall₂_congr fun rule mem => exists_congr fun event => and_congr_right fun hevent => ?_
  constructor
  · intro recorded
    exact Aggregation.isMatch_of_eventType distinct mem recorded
  · intro matched
    exact Aggregation.eventType_of_isMatch separates hevent mem matched

/-- A group is kept for a failed logon and a remote shell, and not for two failed logons. -/
theorem default_threshold_reached_iff_intrusion :
    ∃ (logon shell : String) (intrusion : Aggregation),
      Collection.aggregation ⟨[.failedLogon, .remoteShell]⟩ .mongoDB .intrusion = .ok intrusion ∧
      intrusion.threshold = ⟨.gte, intrusion.identifiers.card⟩ ∧
      intrusion.Keeps (· == ·) [logon, shell] ∧ ¬ intrusion.Keeps (· == ·) [logon, logon] := by
  -- The events are the queries themselves, each of which only its own rule matches.
  obtain ⟨logon, shell, different, resolved⟩ : ∃ logon shell, logon ≠ shell ∧
      Collection.aggregation ⟨[.failedLogon, .remoteShell]⟩ .mongoDB .intrusion =
        .ok ⟨.temporal, ⟨10, .minute⟩, some ["host", "user[0]"], ⟨.gte, 2⟩,
          [⟨"failed_logon", logon⟩, ⟨"remote_shell", shell⟩]⟩ := ⟨_, _, by decide +kernel, rfl⟩
  have apart : TellsApart ⟨[.failedLogon, .remoteShell]⟩ Correlation.intrusion.rules := by decide
  obtain ⟨-, threshold, kept⟩ := default_threshold_reached_iff rfl resolved
  refine ⟨logon, shell, _, resolved, threshold.mpr apart, (kept _ _).1.mpr ⟨apart, ?_⟩, ?_⟩
  · simp [Aggregation.eventType, different]
  · intro reached
    have recorded := ((kept _ _).1.mp reached).2
    simp [Aggregation.eventType] at recorded

/-- A reference that is repeated counts twice, although its rule has one identifier. -/
theorem default_threshold_exceeds_identifiers :
    ¬ ∀ (collection : Collection) (dialect : Dialect) (correlation : Correlation)
      (aggregation : Aggregation), correlation.type = .temporal none →
        collection.aggregation dialect correlation = .ok aggregation →
          aggregation.threshold = ⟨.gte, aggregation.identifiers.card⟩ := by
  intro counts
  obtain ⟨aggregation, resolved⟩ : ∃ aggregation,
      Collection.aggregation ⟨[.failedLogon]⟩ .mongoDB
        ⟨.temporal none, ["failed_logon", "failed_logon"], ⟨10, .minute⟩, none, false⟩ =
          .ok aggregation := ⟨_, rfl⟩
  have apart := (threshold_eq_iff rfl resolved).mp (counts _ _ _ _ rfl resolved)
  exact absurd apart (by decide)

end Collection

end DetectionQuery
