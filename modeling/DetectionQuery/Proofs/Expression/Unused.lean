import DetectionQuery.Proofs.Expression.Faults

/-!
Selections that a condition expression does not use.

An expression looks at the selections in two ways only: it looks up its names outside of quantifiers
and gathers what the targets of its quantifiers name. Lists of selections that give the same answers
to these questions are alike to it (`SeesAlike`), and it is resolved over them alike
(`resolveUnder_of_seesAlike`).

A further selection changes none of the answers if its name is none of these names and no target
names it, wherever it is put. So it does not matter (`resolve_of_unused`).
-/

namespace DetectionQuery.Rule.Expression

open DetectionQuery.Query (Connective)

/-- The names of an expression outside of quantifiers. -/
def plainNames : Expression → List String
  | .name wanted => [wanted]
  | .not operand => operand.plainNames
  | .quantified _ _ => []
  | .binary _ left right => left.plainNames ++ right.plainNames

/-- The targets of the quantifiers of an expression. A quantifier whose operand is no name is
refused before anything in it is looked up, so what stands in there is no target. -/
def targets : Expression → List String
  | .name _ => []
  | .not operand => operand.targets
  | .quantified _ (.name target) => [target]
  | .quantified _ _ => []
  | .binary _ left right => left.targets ++ right.targets

/-- The expression uses the selections of a name: it has the name outside of its quantifiers, or one
of its targets can be looked up and names it. -/
def Uses (e : Expression) (name : String) : Prop :=
  name ∈ e.plainNames ∨ ∃ target ∈ e.targets, IsTarget target ∧ Names target name

instance (e : Expression) (name : String) : Decidable (e.Uses name) :=
  inferInstanceAs (Decidable (_ ∨ _))

theorem targets_subset_names (e : Expression) : e.targets ⊆ e.names := by
  induction e with
  | name wanted => exact List.nil_subset _
  | not operand ih => exact ih
  | quantified quantifier operand =>
    cases operand with
    | name target => exact List.Subset.refl _
    | _ => exact List.nil_subset _
  | binary connective left right ihl ihr =>
    intro target mem
    rcases List.mem_append.mp mem with mem | mem
    · exact List.mem_append_left _ (ihl mem)
    · exact List.mem_append_right _ (ihr mem)

/-! ### Selections that look alike -/

/-- Over both lists of selections, the names and targets of the expression stand for the same. -/
structure SeesAlike (e : Expression) (selections selections' : List NamedSelection) : Prop where
  names : ∀ wanted ∈ e.plainNames, resolveName selections wanted = resolveName selections' wanted
  targets : ∀ target ∈ e.targets, named target selections = named target selections'

section

variable {selections selections' : List NamedSelection}

theorem SeesAlike.left {connective : Connective} {left right : Expression}
    (h : (Expression.binary connective left right).SeesAlike selections selections') :
    left.SeesAlike selections selections' where
  names wanted mem := h.names wanted (List.mem_append_left _ mem)
  targets target mem := h.targets target (List.mem_append_left _ mem)

theorem SeesAlike.right {connective : Connective} {left right : Expression}
    (h : (Expression.binary connective left right).SeesAlike selections selections') :
    right.SeesAlike selections selections' where
  names wanted mem := h.names wanted (List.mem_append_right _ mem)
  targets target mem := h.targets target (List.mem_append_right _ mem)

theorem resolveQuantified_congr {target : String}
    (h : named target selections = named target selections') (quantifier : Quantifier) :
    resolveQuantified quantifier target selections =
      resolveQuantified quantifier target selections' := by
  rw [resolveQuantified, resolveQuantified, h]

/-- An expression gives every group the same conditions, or the same error, over selections that
look alike to it. -/
theorem resolveUnder_of_seesAlike {e : Expression} (h : e.SeesAlike selections selections')
    (context : Option Connective) :
    e.resolveUnder selections context = e.resolveUnder selections' context := by
  induction e generalizing context with
  | name wanted => rw [resolveUnder, resolveUnder, h.names wanted (List.mem_singleton_self wanted)]
  | not operand ih => rw [resolveUnder, resolveUnder, ih ⟨h.names, h.targets⟩ none]
  | quantified quantifier operand =>
    cases operand with
    | name target =>
      rw [resolveUnder, resolveUnder,
        resolveQuantified_congr (h.targets target (List.mem_singleton_self target))]
    | _ => rfl
  | binary connective left right ihl ihr =>
    rw [resolveUnder, resolveUnder, ihl h.left (some connective), ihr h.right (some connective)]

end

/-! ### One more selection -/

section

variable {before after : List NamedSelection} {added : NamedSelection}

/-- The first selection of a name stays the first if one of another name is put in. -/
theorem resolveName_insert {wanted : String} (h : added.1 ≠ wanted) :
    resolveName (before ++ added :: after) wanted = resolveName (before ++ after) wanted := by
  rw [resolveName, resolveName, List.find?_append, List.find?_append,
    List.find?_cons_of_neg (by simpa using h)]

/-- A target gathers the same selections if it does not name the one that is put in. A target that
cannot be looked up is refused over any selections. -/
theorem named_insert {target : String} (word : ∀ c ∈ target.toList, isWordChar c = true)
    (h : IsTarget target → ¬ Names target added.1) :
    named target (before ++ added :: after) = named target (before ++ after) := by
  by_cases isTarget : IsTarget target
  · rw [named_of_isTarget word isTarget, named_of_isTarget word isTarget, List.filter_append,
      List.filter_append, List.filter_cons_of_neg (by simpa using h isTarget)]
  · have other : target ≠ "them" := fun them => isTarget (.inl them)
    obtain ⟨fault, refused⟩ := exists_fault word isTarget
    rw [named, named, if_neg other, if_neg other, refused]

end

/-- **Unused selections do not matter.** If an expression from a text does not use the name of a
selection, it is resolved alike with and without that selection, wherever it stands among the
others: to the same condition, or with the same error. -/
theorem resolve_of_unused {text : String} {e : Expression} (expression : read text = .ok e)
    (before after : List NamedSelection) {added : NamedSelection} (unused : ¬ e.Uses added.1) :
    e.resolve (before ++ added :: after) = e.resolve (before ++ after) := by
  have alike : e.SeesAlike (before ++ added :: after) (before ++ after) := by
    constructor
    · intro wanted mem
      apply resolveName_insert
      rintro rfl
      exact unused (.inl mem)
    · intro target mem
      apply named_insert (isWordChar_of_read expression (e.targets_subset_names mem))
      intro isTarget names
      exact unused (.inr ⟨target, mem, isTarget, names⟩)
  rw [resolve, resolve, resolveUnder_of_seesAlike alike]

/-- The selection `_s_2` comes between the two that are used, and none of `s_*`, `them` and `a`
names it. It does not matter where `a` is missing either. -/
theorem resolve_of_unused_helper :
    ∃ e, read "(1 of s_* or all of them) and not a" = .ok e ∧ ¬ e.Uses "_s_2" ∧
      e.resolve [("s_1", .leaf (.isNull "x")), ("_s_2", .leaf (.isNull "z")),
          ("a", .leaf (.isNull "y"))] =
        .ok (.and [.or [.leaf (.isNull "x"), .and [.leaf (.isNull "x"), .leaf (.isNull "y")]],
          .not (.leaf (.isNull "y"))]) ∧
      e.resolve [("s_1", .leaf (.isNull "x")), ("_s_2", .leaf (.isNull "z"))] =
        .error (.unknownSelection "a") := by
  have cut : tokenize "(1 of s_* or all of them) and not a".toList = some [.opening, .word ['1'],
      .word ['o', 'f'], .word ['s', '_', '*'], .word ['o', 'r'], .word ['a', 'l', 'l'],
      .word ['o', 'f'], .word ['t', 'h', 'e', 'm'], .closing, .word ['a', 'n', 'd'],
      .word ['n', 'o', 't'], .word ['a']] := by
    decide
  have whole : readAll [.opening, .word ['1'], .word ['o', 'f'], .word ['s', '_', '*'],
      .word ['o', 'r'], .word ['a', 'l', 'l'], .word ['o', 'f'], .word ['t', 'h', 'e', 'm'],
      .closing, .word ['a', 'n', 'd'], .word ['n', 'o', 't'], .word ['a']] =
        some (.binary .and (.binary .or (.quantified (.count 1) (.name "s_*"))
          (.quantified .all (.name "them"))) (.not (.name "a"))) := by
    decide +kernel
  have expression : read "(1 of s_* or all of them) and not a" =
      .ok (.binary .and (.binary .or (.quantified (.count 1) (.name "s_*"))
        (.quantified .all (.name "them"))) (.not (.name "a"))) :=
    read_eq_ok_iff.mpr ⟨_, cut, whole, rfl⟩
  have unused : ¬ (Expression.binary .and (.binary .or (.quantified (.count 1) (.name "s_*"))
      (.quantified .all (.name "them"))) (.not (.name "a"))).Uses "_s_2" := by
    decide
  refine ⟨_, expression, unused, ?_, ?_⟩
  · exact resolve_of_unused expression [("s_1", .leaf (.isNull "x"))] [("a", .leaf (.isNull "y"))]
      unused
  · exact resolve_of_unused expression [("s_1", .leaf (.isNull "x"))] [] unused

end DetectionQuery.Rule.Expression
