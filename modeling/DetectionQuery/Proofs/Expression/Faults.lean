import DetectionQuery.Proofs.Expression.Meaning

/-!
When a condition expression cannot be resolved.

What can go wrong in an expression are its references to selections: its names, and its quantifiers
with their operands. `Reference.Stands` says that a reference stands for selections and
`Reference.Reports` which error is reported for one that does not; a reference does the one or the
other (`stands_or_reports`).

Resolution takes chains of one connective apart, through any parentheses, and puts the conditions of
their operands together again. It meets the references in the order of the text all the same, so
the outcome is decided by the first reference that fails on its own (`failure?_resolveUnder`).
-/

namespace DetectionQuery.Rule

open DetectionQuery.Query (Condition Connective)

/-- A target that can be looked up: `them`, or a pattern in which two stars do not meet or are all
of it. -/
def IsTarget (target : String) : Prop :=
  target = "them" ∨ ¬ ['*', '*'] <:+: target.toList ∨ target = "**"

instance (target : String) : Decidable (IsTarget target) :=
  inferInstanceAs (Decidable (_ ∨ _ ∨ _))

/-- A part of an expression that refers to selections: a name, or a quantifier with its operand. -/
inductive Reference where
  | name (wanted : String)
  | quantified (quantifier : Quantifier) (operand : Expression)
deriving DecidableEq, Repr

namespace Reference

def toExpression : Reference → Expression
  | .name wanted => .name wanted
  | .quantified quantifier operand => .quantified quantifier operand

/-- The reference stands for selections. A quantifier has to be `all` or one, and its operand a
target that names a selection. -/
def Stands (selections : List NamedSelection) : Reference → Prop
  | .name wanted => ∃ selection ∈ selections, selection.1 = wanted
  | .quantified quantifier operand =>
    ∃ target, operand = .name target ∧ IsTarget target ∧
      (∃ selection ∈ selections, Names target selection.1) ∧
      (quantifier = .all ∨ quantifier = .count 1)

/-- The error of a reference. Of the four errors of a quantifier each comes up only if none of those
before it does. -/
inductive Reports (selections : List NamedSelection) : Reference → Error → Prop where
  | unknown {wanted : String} :
      (∀ selection ∈ selections, selection.1 ≠ wanted) →
      Reports selections (.name wanted) (.unknownSelection wanted)
  | notName {quantifier : Quantifier} {operand : Expression} :
      (∀ target, operand ≠ .name target) →
      Reports selections (.quantified quantifier operand) .operandNotName
  | noPattern {quantifier : Quantifier} {target : String} {fault : Glob.Fault} :
      ¬ IsTarget target → Glob.parse target = .error fault →
      Reports selections (.quantified quantifier (.name target)) (.invalidPattern fault)
  | nothing {quantifier : Quantifier} {target : String} :
      IsTarget target → (∀ selection ∈ selections, ¬ Names target selection.1) →
      Reports selections (.quantified quantifier (.name target)) (.nothingNamed target)
  | count {least : Nat} {target : String} :
      IsTarget target → (∃ selection ∈ selections, Names target selection.1) → least ≠ 1 →
      Reports selections (.quantified (.count least) (.name target))
        (.unsupportedCount least target)

end Reference

namespace Expression

/-- The references of an expression from left to right, a quantifier before those in its operand.
The target of a quantifier is no reference of its own. -/
def references : Expression → List Reference
  | .name wanted => [.name wanted]
  | .not operand => operand.references
  | .quantified quantifier (.name target) => [.quantified quantifier (.name target)]
  | .quantified quantifier operand => .quantified quantifier operand :: operand.references
  | .binary _ left right => left.references ++ right.references

/-- The names of a reference are names of the expression. -/
theorem names_of_mem_references {e : Expression} {reference : Reference}
    (mem : reference ∈ e.references) : reference.toExpression.names ⊆ e.names := by
  induction e with
  | name wanted =>
    rw [List.mem_singleton.mp mem]
    exact List.Subset.refl _
  | not operand ih => exact ih mem
  | quantified quantifier operand ih =>
    have whole : (Reference.quantified quantifier operand).toExpression.names ⊆ operand.names :=
      List.Subset.refl _
    cases operand with
    | name target =>
      rw [List.mem_singleton.mp mem]
      exact whole
    | _ =>
      rcases List.mem_cons.mp mem with rfl | mem
      · exact whole
      · exact ih mem
  | binary connective left right ihl ihr =>
    rcases List.mem_append.mp mem with mem | mem
    · exact List.subset_append_of_subset_left _ (ihl mem)
    · exact List.subset_append_of_subset_right _ (ihr mem)

/-! ### The first reference that fails -/

section

variable {selections : List NamedSelection}

theorem exists_group {connective : Connective} {children : List Condition} (h : children ≠ []) :
    ∃ condition, Condition.group connective children = .ok condition := by
  match children with
  | [] => exact absurd rfl h
  | [child] => exact ⟨child, rfl⟩
  | child :: next :: rest => cases connective <;> exact ⟨_, rfl⟩

theorem failure?_group {connective : Connective} {children : List Condition} (h : children ≠ []) :
    failure? (Condition.group connective children) = none :=
  failure?_eq_none_iff.mpr (exists_group h)

/-- An operand adds at least one condition to its group. -/
theorem ne_nil_of_resolveUnder {e : Expression} {context : Option Connective}
    {conditions : List Condition} (h : e.resolveUnder selections context = .ok conditions) :
    conditions ≠ [] := by
  induction e generalizing context conditions with
  | name wanted =>
    obtain ⟨_, _, result⟩ := bind_eq_ok_iff.mp h
    cases result
    exact List.cons_ne_nil _ _
  | not operand ih =>
    obtain ⟨inner, hoperand, result⟩ := bind_eq_ok_iff.mp h
    cases result
    simpa using ih hoperand
  | quantified quantifier operand =>
    cases operand with
    | name target =>
      obtain ⟨_, _, result⟩ := bind_eq_ok_iff.mp h
      cases result
      exact List.cons_ne_nil _ _
    | _ => cases h
  | binary connective left right ihl ihr =>
    obtain ⟨first, hleft, further⟩ := bind_eq_ok_iff.mp h
    obtain ⟨second, _, result⟩ := bind_eq_ok_iff.mp further
    split at result
    · cases result
      exact List.append_ne_nil_of_left_ne_nil (ihl hleft) _
    · obtain ⟨_, _, result⟩ := bind_eq_ok_iff.mp result
      cases result
      exact List.cons_ne_nil _ _

theorem failure?_resolve (e : Expression) :
    failure? (e.resolve selections) = failure? (e.resolveUnder selections none) := by
  have group : ∀ conditions, e.resolveUnder selections none = .ok conditions →
      failure? (Condition.group .and conditions) = none :=
    fun conditions resolved => failure?_group (ne_nil_of_resolveUnder resolved)
  rw [resolve, failure?_bind group, Option.or_none]

/-- **The first reference that fails decides.** -/
theorem failure?_resolveUnder (e : Expression) (context : Option Connective) :
    failure? (e.resolveUnder selections context) =
      e.references.findSome? fun reference =>
        failure? (reference.toExpression.resolve selections) := by
  induction e generalizing context with
  | name wanted =>
    rw [references, List.findSome?_singleton, failure?_resolve]
    rfl
  | not operand ih => exact failure?_bind_ok.trans (ih none)
  | quantified quantifier operand =>
    cases operand with
    | name target =>
      rw [references, List.findSome?_singleton, failure?_resolve]
      rfl
    | _ => rfl
  | binary connective left right ihl ihr =>
    rw [references, List.findSome?_append, ← ihl (some connective), ← ihr (some connective),
      resolveUnder]
    refine failure?_bind fun first hleft => ?_
    refine (failure?_bind fun second _ => ?_).trans Option.or_none
    split
    · rfl
    · exact failure?_bind_ok.trans
        (failure?_group (List.append_ne_nil_of_left_ne_nil (ne_nil_of_resolveUnder hleft) second))

/-! ### One reference -/

theorem group_singleton (x : Except Error Condition) :
    (do Condition.group .and (← (do return [← x]))) = x := by
  cases x <;> rfl

theorem resolve_name (wanted : String) :
    (Expression.name wanted).resolve selections = resolveName selections wanted :=
  group_singleton _

theorem resolve_quantified_name (quantifier : Quantifier) (target : String) :
    (Expression.quantified quantifier (.name target)).resolve selections =
      resolveQuantified quantifier target selections :=
  group_singleton _

section

variable {target : String} (word : ∀ c ∈ target.toList, isWordChar c = true)
include word

/-- Among words, exactly the targets are `them` or patterns. -/
theorem exists_parse_iff_isTarget (other : target ≠ "them") :
    (∃ tokens, Glob.parse target = .ok tokens) ↔ IsTarget target := by
  have bracket : '[' ∉ target.toList := fun mem => absurd (word _ mem) (by decide)
  have separator : '/' ∉ target.toList := fun mem => absurd (word _ mem) (by decide)
  rw [Glob.exists_parse_iff bracket separator, IsTarget, or_iff_right other]

theorem named_of_isTarget (h : IsTarget target) :
    named target selections =
      .ok ((selections.filter fun selection => Names target selection.1).map Prod.snd) := by
  have found : ∃ conditions, named target selections = .ok conditions := by
    by_cases them : target = "them"
    · exact ⟨_, if_pos them⟩
    · obtain ⟨tokens, pattern⟩ := (exists_parse_iff_isTarget word them).mpr h
      rw [named, if_neg them, pattern]
      exact ⟨_, rfl⟩
  obtain ⟨conditions, hnamed⟩ := found
  rw [hnamed, named_of_word word hnamed]

theorem exists_fault (h : ¬ IsTarget target) : ∃ fault, Glob.parse target = .error fault := by
  have other : target ≠ "them" := fun them => h (.inl them)
  cases pattern : Glob.parse target with
  | ok tokens => exact absurd ((exists_parse_iff_isTarget word other).mp ⟨tokens, pattern⟩) h
  | error fault => exact ⟨fault, rfl⟩

theorem resolveQuantified_of_nothing (h : IsTarget target)
    (nothing : ∀ selection ∈ selections, ¬ Names target selection.1) (quantifier : Quantifier) :
    resolveQuantified quantifier target selections = .error (.nothingNamed target) := by
  have empty : (selections.filter fun selection => Names target selection.1) = [] := by
    simpa using nothing
  rw [resolveQuantified, named_of_isTarget word h, empty]
  rfl

/-- Over selections that it names, a quantifier fails by its count only. -/
theorem resolveQuantified_of_named (h : IsTarget target)
    (matched : ∃ selection ∈ selections, Names target selection.1) (quantifier : Quantifier) :
    ∃ conditions ≠ [], resolveQuantified quantifier target selections =
      match quantifier with
      | .all => Condition.group .and conditions
      | .count least =>
        if least = 1 then Condition.group .or conditions
        else .error (.unsupportedCount least target) := by
  obtain ⟨selection, mem, names⟩ := matched
  have kept : selection ∈ selections.filter fun selection => Names target selection.1 := by
    simpa [mem] using names
  have conditions := List.ne_nil_of_mem (List.mem_map_of_mem (f := Prod.snd) kept)
  refine ⟨_, conditions, ?_⟩
  rw [resolveQuantified, named_of_isTarget word h]
  cases quantifier <;> exact if_neg (mt List.isEmpty_iff.mp conditions)

end

theorem exists_resolveName {wanted : String} (h : ∃ selection ∈ selections, selection.1 = wanted) :
    ∃ condition, resolveName selections wanted = .ok condition := by
  rw [resolveName]
  split
  · next found => exact ⟨_, rfl⟩
  · next unknown =>
    obtain ⟨selection, mem, same⟩ := h
    exact absurd (by simpa using same) (List.find?_eq_none.mp unknown selection mem)

theorem resolveName_of_unknown {wanted : String}
    (h : ∀ selection ∈ selections, selection.1 ≠ wanted) :
    resolveName selections wanted = .error (.unknownSelection wanted) := by
  rw [resolveName]
  split
  · next found =>
    exact absurd (by simpa using List.find?_some found) (h _ (List.mem_of_find?_eq_some found))
  · rfl

end

end Expression

namespace Reference

open Expression

variable {selections : List NamedSelection} {reference : Reference}

/-- The names of the reference consist of the characters of words. -/
def HasWords (reference : Reference) : Prop :=
  ∀ name ∈ reference.toExpression.names, ∀ c ∈ name.toList, isWordChar c = true

theorem exists_resolve_of_stands (words : reference.HasWords) (h : reference.Stands selections) :
    ∃ condition, reference.toExpression.resolve selections = .ok condition := by
  cases reference with
  | name wanted =>
    rw [toExpression, resolve_name]
    exact exists_resolveName h
  | quantified quantifier operand =>
    obtain ⟨target, rfl, isTarget, matched, quantifier⟩ := h
    have word := words target (List.mem_singleton_self target)
    obtain ⟨conditions, nonempty, result⟩ := resolveQuantified_of_named word isTarget matched _
    rw [toExpression, resolve_quantified_name, result]
    rcases quantifier with rfl | rfl
    · exact exists_group nonempty
    · simpa only [if_true] using exists_group nonempty

theorem resolve_of_reports (words : reference.HasWords) {error : Error}
    (h : reference.Reports selections error) :
    reference.toExpression.resolve selections = .error error := by
  cases h with
  | unknown unknown => rw [toExpression, resolve_name, resolveName_of_unknown unknown]
  | @notName quantifier operand noName =>
    cases operand with
    | name target => exact absurd rfl (noName target)
    | _ => rfl
  | @noPattern quantifier target fault noTarget refused =>
    have other : target ≠ "them" := fun them => noTarget (.inl them)
    rw [toExpression, resolve_quantified_name, resolveQuantified, named, if_neg other, refused]
    rfl
  | @nothing quantifier target isTarget nothing =>
    have word := words target (List.mem_singleton_self target)
    rw [toExpression, resolve_quantified_name, resolveQuantified_of_nothing word isTarget nothing]
  | @count least target isTarget matched notOne =>
    have word := words target (List.mem_singleton_self target)
    obtain ⟨conditions, -, result⟩ :=
      resolveQuantified_of_named word isTarget matched (.count least)
    rw [toExpression, resolve_quantified_name, result]
    exact if_neg notOne

/-- A reference stands for selections, or there is an error to report. -/
theorem stands_or_reports (words : reference.HasWords) :
    reference.Stands selections ∨ ∃ error, reference.Reports selections error := by
  cases reference with
  | name wanted =>
    by_cases known : ∃ selection ∈ selections, selection.1 = wanted
    · exact .inl known
    · exact .inr ⟨_, .unknown fun selection mem same => known ⟨selection, mem, same⟩⟩
  | quantified quantifier operand =>
    by_cases isName : ∃ target, operand = .name target
    · obtain ⟨target, rfl⟩ := isName
      by_cases isTarget : IsTarget target
      · by_cases matched : ∃ selection ∈ selections, Names target selection.1
        · cases quantifier with
          | all => exact .inl ⟨target, rfl, isTarget, matched, .inl rfl⟩
          | count least =>
            by_cases one : least = 1
            · exact .inl ⟨target, rfl, isTarget, matched, .inr (congrArg _ one)⟩
            · exact .inr ⟨_, .count isTarget matched one⟩
        · have nothing : ∀ selection ∈ selections, ¬ Names target selection.1 :=
            fun selection mem names => matched ⟨selection, mem, names⟩
          exact .inr ⟨_, .nothing isTarget nothing⟩
      · have word := words target (List.mem_singleton_self target)
        obtain ⟨fault, refused⟩ := exists_fault word isTarget
        exact .inr ⟨_, .noPattern isTarget refused⟩
    · exact .inr ⟨_, .notName fun target same => isName ⟨target, same⟩⟩

theorem Reports.not_stands (words : reference.HasWords) {error : Error}
    (h : reference.Reports selections error) : ¬ reference.Stands selections := by
  intro stands
  obtain ⟨condition, resolved⟩ := exists_resolve_of_stands words stands
  rw [resolve_of_reports words h] at resolved
  cases resolved

theorem exists_resolve_iff (words : reference.HasWords) :
    (∃ condition, reference.toExpression.resolve selections = .ok condition) ↔
      reference.Stands selections := by
  refine ⟨?_, exists_resolve_of_stands words⟩
  rintro ⟨condition, resolved⟩
  rcases stands_or_reports words with stands | ⟨error, reports⟩
  · exact stands
  · rw [resolve_of_reports words reports] at resolved
    cases resolved

theorem resolve_eq_error_iff (words : reference.HasWords) {error : Error} :
    reference.toExpression.resolve selections = .error error ↔
      reference.Reports selections error := by
  refine ⟨fun failed => ?_, resolve_of_reports words⟩
  rcases stands_or_reports words with stands | ⟨other, reports⟩
  · obtain ⟨condition, resolved⟩ := exists_resolve_of_stands words stands
    rw [resolved] at failed
    cases failed
  · rw [resolve_of_reports words reports] at failed
    cases failed
    exact reports

end Reference

namespace Expression

/-- **When an expression cannot be resolved, and why.** An expression from a text is resolved
exactly if each of its references stands for selections. Otherwise the error is the one of the first
reference from the left that does not. -/
theorem resolve_fails_iff {text : String} {e : Expression} (expression : read text = .ok e)
    (selections : List NamedSelection) :
    ((∃ condition, e.resolve selections = .ok condition) ↔
      ∀ reference ∈ e.references, reference.Stands selections) ∧
    ∀ error, e.resolve selections = .error error ↔
      ∃ before reference after, e.references = before ++ reference :: after ∧
        (∀ earlier ∈ before, earlier.Stands selections) ∧ ¬ reference.Stands selections ∧
        reference.Reports selections error := by
  have words : ∀ reference ∈ e.references, reference.HasWords := fun reference mem name hname =>
    isWordChar_of_read expression (names_of_mem_references mem hname)
  have first : failure? (e.resolve selections) =
      e.references.findSome? fun reference =>
        failure? (reference.toExpression.resolve selections) :=
    (failure?_resolve e).trans (failure?_resolveUnder e none)
  constructor
  · rw [← failure?_eq_none_iff, first, List.findSome?_eq_none_iff]
    refine forall₂_congr fun reference mem => ?_
    rw [failure?_eq_none_iff, Reference.exists_resolve_iff (words reference mem)]
  · intro error
    rw [← failure?_eq_some_iff, first, List.findSome?_eq_some_iff]
    refine exists_congr fun before => exists_congr fun reference => exists_congr fun after =>
      and_congr_right fun split => ?_
    have here : reference.HasWords := words reference (by simp [split])
    have earlier : (∀ part ∈ before, failure? (part.toExpression.resolve selections) = none) ↔
        ∀ part ∈ before, part.Stands selections := by
      refine forall₂_congr fun part mem => ?_
      rw [failure?_eq_none_iff, Reference.exists_resolve_iff (words part (by simp [split, mem]))]
    rw [earlier, failure?_eq_some_iff, Reference.resolve_eq_error_iff here]
    constructor
    · rintro ⟨reports, stand⟩
      exact ⟨stand, reports.not_stands here, reports⟩
    · rintro ⟨stand, -, reports⟩
      exact ⟨reports, stand⟩

/-- A count of two is reported although a target further to the right is no pattern. -/
theorem resolve_fails_iff_count :
    ∃ e, read "(a or all of (s_*)) and not 2of s_* and 1 of x**" = .ok e ∧
      e.resolve [("s_1", .leaf (.isNull "x")), ("a", .leaf (.isNull "y"))] =
        .error (.unsupportedCount 2 "s_*") := by
  have cut : tokenize "(a or all of (s_*)) and not 2of s_* and 1 of x**".toList =
      some [.opening, .word ['a'], .word ['o', 'r'], .word ['a', 'l', 'l'], .word ['o', 'f'],
        .opening, .word ['s', '_', '*'], .closing, .closing, .word ['a', 'n', 'd'],
        .word ['n', 'o', 't'], .word ['2', 'o', 'f'], .word ['s', '_', '*'], .word ['a', 'n', 'd'],
        .word ['1'], .word ['o', 'f'], .word ['x', '*', '*']] := by
    decide
  have whole : readAll [.opening, .word ['a'], .word ['o', 'r'], .word ['a', 'l', 'l'],
      .word ['o', 'f'], .opening, .word ['s', '_', '*'], .closing, .closing, .word ['a', 'n', 'd'],
      .word ['n', 'o', 't'], .word ['2', 'o', 'f'], .word ['s', '_', '*'], .word ['a', 'n', 'd'],
      .word ['1'], .word ['o', 'f'], .word ['x', '*', '*']] = some (.binary .and
        (.binary .and (.binary .or (.name "a") (.quantified .all (.name "s_*")))
          (.not (.quantified (.count 2) (.name "s_*"))))
        (.quantified (.count 1) (.name "x**"))) := by
    decide +kernel
  have expression : read "(a or all of (s_*)) and not 2of s_* and 1 of x**" = .ok (.binary .and
        (.binary .and (.binary .or (.name "a") (.quantified .all (.name "s_*")))
          (.not (.quantified (.count 2) (.name "s_*"))))
        (.quantified (.count 1) (.name "x**"))) :=
    read_eq_ok_iff.mpr ⟨_, cut, whole, rfl⟩
  have isTarget : IsTarget "s_*" := by decide
  have named : ∃ selection ∈
      [("s_1", Condition.leaf (.isNull "x")), ("a", Condition.leaf (.isNull "y"))],
      Names "s_*" selection.1 :=
    ⟨_, List.mem_cons_self, by decide⟩
  refine ⟨_, expression, ((resolve_fails_iff expression _).2 _).mpr
    ⟨[.name "a", .quantified .all (.name "s_*")], .quantified (.count 2) (.name "s_*"),
      [.quantified (.count 1) (.name "x**")], rfl, ?_, ?_, .count isTarget named (by decide)⟩⟩
  · rintro earlier (_ | ⟨_, _ | ⟨_, ⟨⟩⟩⟩)
    · exact ⟨_, .tail _ List.mem_cons_self, rfl⟩
    · exact ⟨"s_*", rfl, isTarget, named, .inl rfl⟩
  · rintro ⟨_, _, _, _, quantifier⟩
    exact absurd quantifier (by decide)

end Expression

end DetectionQuery.Rule
