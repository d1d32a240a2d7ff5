import DetectionQuery.Proofs.Collection.Lookup

/-!
Collections that do not refer to each other.

If no correlation of either collection names a rule of the other, converting one collection behind
the other gives the queries of the first before those of the second, or the first error
(`convert_append_of_independent`). A collection could reach the other part in three ways, and each
is closed by one lemma: its correlations could keep rules of the other part from being converted
(`isSuppressed_eq_false`), its references could find rules of the other part, or its own rules could
be found in place of them (`find?_eq_none`).
-/

namespace DetectionQuery.Collection

open DetectionQuery.Query (Dialect)

/-- No rule of a collection refers to a rule of another. -/
def IndependentOf (collection other : Collection) : Prop :=
  ∀ user ∈ collection.rules, ∀ reference ∈ user.correlated, ∀ rule ∈ other.rules,
    rule.isReferencedBy reference = false

namespace IndependentOf

variable {collection other : Collection} {rule : Rule} {reference : String}

theorem find?_eq_none (h : collection.IndependentOf other) (mem : rule ∈ collection.rules)
    (href : reference ∈ rule.correlated) : other.find? reference = none := by
  refine List.find?_eq_none.mpr fun candidate hcandidate => ?_
  simp [h rule mem reference href candidate hcandidate]

theorem isSuppressed_eq_false (h : collection.IndependentOf other) (mem : rule ∈ other.rules) :
    collection.isSuppressed rule = false := by
  refine Bool.eq_false_iff.mpr fun suppressed => ?_
  obtain ⟨user, reference, huser, href, names⟩ := isSuppressed_iff.mp suppressed
  obtain ⟨correlation, body, -, href⟩ := mem_suppressedBy_iff.mp href
  have unnamed := h user huser reference (Rule.mem_correlated_iff.mpr ⟨_, body, href⟩) rule mem
  rw [names] at unnamed
  cases unnamed

end IndependentOf

variable {first second : Collection} {rule : Rule}

/-- A rule of the first part is converted as it is there. -/
theorem convertRule_append_left (h : first.IndependentOf second) (dialect : Dialect)
    (mem : rule ∈ first.rules) :
    (first ++ second).convertRule dialect rule = first.convertRule dialect rule := by
  refine convertRule_congr fun reference href => ?_
  have found : (first ++ second).find? reference = first.find? reference := by
    rw [find?_append, h.find?_eq_none mem href, Option.or_none]
  simp only [ruleQuery, found]

/-- A rule of the second part is converted as it is there. -/
theorem convertRule_append_right (h : second.IndependentOf first) (dialect : Dialect)
    (mem : rule ∈ second.rules) :
    (first ++ second).convertRule dialect rule = second.convertRule dialect rule := by
  refine convertRule_congr fun reference href => ?_
  have found : (first ++ second).find? reference = second.find? reference := by
    rw [find?_append, h.find?_eq_none mem href, Option.none_or]
  simp only [ruleQuery, found]

/-- Both parts keep the rules that they convert. -/
theorem converted_append (hfirst : first.IndependentOf second)
    (hsecond : second.IndependentOf first) :
    (first ++ second).converted = first.converted ++ second.converted := by
  have left : ∀ rule ∈ first.rules,
      (!(first ++ second).isSuppressed rule) = !first.isSuppressed rule := by
    intro rule mem
    rw [isSuppressed_append, hsecond.isSuppressed_eq_false mem, Bool.or_false]
  have right : ∀ rule ∈ second.rules,
      (!(first ++ second).isSuppressed rule) = !second.isSuppressed rule := by
    intro rule mem
    rw [isSuppressed_append, hfirst.isSuppressed_eq_false mem, Bool.false_or]
  calc (first ++ second).converted
      = (first.rules ++ second.rules).filter fun rule => !(first ++ second).isSuppressed rule := rfl
    _ = first.converted ++ second.converted := by
      rw [List.filter_append, List.filter_congr left, List.filter_congr right, converted, converted]

/-- **Independent collections are converted independently.** If no correlation of either collection
names a rule of the other, both are converted one after the other: the queries of the first stand
before those of the second, and an error of the first comes before one of the second. -/
theorem convert_append_of_independent (hfirst : first.IndependentOf second)
    (hsecond : second.IndependentOf first) (dialect : Dialect) :
    (first ++ second).convert dialect =
      match first.convert dialect, second.convert dialect with
      | .ok queries, .ok more => .ok (queries ++ more)
      | .ok _, .error error => .error error
      | .error error, _ => .error error := by
  have left : first.converted.mapM ((first ++ second).convertRule dialect) =
      first.converted.mapM (first.convertRule dialect) :=
    mapM_congr fun rule mem => convertRule_append_left hfirst dialect (mem_converted.mp mem).1
  have right : second.converted.mapM ((first ++ second).convertRule dialect) =
      second.converted.mapM (second.convertRule dialect) :=
    mapM_congr fun rule mem => convertRule_append_right hsecond dialect (mem_converted.mp mem).1
  rw [convert_eq, convert_eq first, convert_eq second, converted_append hfirst hsecond,
    List.mapM_append, left, right]
  cases first.converted.mapM (first.convertRule dialect) with
  | error e => rfl
  | ok outputs =>
    cases second.converted.mapM (second.convertRule dialect) with
    | error e => rfl
    | ok more => exact congrArg Except.ok List.flatten_append

/-- Each of two collections has a correlation that keeps one of its own rules back. -/
theorem convert_append_of_independent_logons : ∃ first second : Collection, ∃ queries more,
    first.IndependentOf second ∧ second.IndependentOf first ∧
    first.convert .mongoDB = .ok queries ∧ second.convert .mongoDB = .ok more ∧
    (first ++ second).convert .mongoDB = .ok (queries ++ more) := by
  have left : IndependentOf ⟨[.failedLogon, .correlating "guessing" ["failed_logon"] false]⟩
      ⟨[.correlating "shells" ["remote_shell"] false, .remoteShell]⟩ := by
    simp [IndependentOf, Rule.correlated, Rule.isReferencedBy, Rule.correlating, Rule.failedLogon,
      Rule.remoteShell, Rule.ofName]
  have right : IndependentOf ⟨[.correlating "shells" ["remote_shell"] false, .remoteShell]⟩
      ⟨[.failedLogon, .correlating "guessing" ["failed_logon"] false]⟩ := by
    simp [IndependentOf, Rule.correlated, Rule.isReferencedBy, Rule.correlating, Rule.failedLogon,
      Rule.remoteShell, Rule.ofName]
  exact ⟨_, _, _, _, left, right, rfl, rfl, convert_append_of_independent left right _⟩

end DetectionQuery.Collection
