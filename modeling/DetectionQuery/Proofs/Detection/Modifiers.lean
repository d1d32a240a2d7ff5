import DetectionQuery.Proofs.Detection.NormalForm

/-!
What the modifiers of a key add up to.

Of the modifiers of a key it only matters which there are, not in which order and how often they
stand, and `cased` does not matter at all; of several comparisons the first counts. Keys that are
alike in this sense (`ItemKey.Alike`) build the same conditions, up to the wording of errors
(`ItemKey.Alike.condition`). Reading turns texts that spell the same modifiers into such keys, or
refuses both with errors of the same kind (`ItemKey.agree_parse`), so the items of both texts come
to the same (`itemCondition_of_spellAlike`).
-/

namespace DetectionQuery.Rule

open DetectionQuery.Query (Comparison)

/-! ### Keys that are alike -/

namespace ItemKey

/-- The keys have the same field, the same modifiers other than `cased`, and the same first
comparison. -/
structure Alike (first second : ItemKey) : Prop where
  field : first.field = second.field
  has : ∀ modifier, modifier ≠ .cased → first.has modifier = second.has modifier
  comparison : first.comparison? = second.comparison?

namespace Alike

variable {first second : ItemKey}

theorem requiredField (h : first.Alike second) :
    Agree Error.kind Eq first.requiredField second.requiredField := by
  unfold ItemKey.requiredField
  rw [h.field]
  cases second.field with
  | none => exact .error rfl
  | some field => exact .ok rfl

theorem equals (h : first.Alike second) : first.equals = second.equals := by
  funext value
  rw [ItemKey.equals, ItemKey.equals, h.field]

theorem matchesText (h : first.Alike second) : first.matchesText = second.matchesText := by
  rw [ItemKey.matchesText, ItemKey.matchesText, h.has .contains (by decide),
    h.has .startsWith (by decide), h.has .endsWith (by decide)]

theorem pattern (h : first.Alike second) : first.pattern = second.pattern := by
  have marked : first.marked = second.marked := by
    funext text
    rw [ItemKey.marked, ItemKey.marked, h.has .contains (by decide), h.has .startsWith (by decide),
      h.has .endsWith (by decide)]
  funext value
  rw [ItemKey.pattern, ItemKey.pattern, marked]

theorem plainLeaf (h : first.Alike second) (value : Yaml.Value) :
    Agree Error.kind Eq (first.plainLeaf value) (second.plainLeaf value) := by
  cases value with
  | null => exact h.requiredField.bind_same fun field => .refl _
  | _ =>
    simp only [ItemKey.plainLeaf, h.equals, h.pattern, h.matchesText]
    exact .refl _

/-- Only a missing field is reported with the modifiers, so the errors are of the same kind. -/
theorem leaf (h : first.Alike second) (value : Yaml.Value) :
    Agree Error.kind Eq (first.leaf value) (second.leaf value) := by
  unfold ItemKey.leaf
  rw [h.has .fieldExists (by decide), h.comparison, h.has .fieldRef (by decide),
    h.has .regex (by decide), h.equals]
  split
  · split
    · exact h.requiredField.bind_same fun field => .refl _
    · exact .refl _
  · split
    · split
      · exact (Agree.refl _).bind_same fun number => h.requiredField.bind_same fun field => .refl _
      · exact .refl _
    · split
      · exact (Agree.refl _).bind_same fun other => h.requiredField.bind_same fun field => .refl _
      · split
        · exact .refl _
        · exact h.plainLeaf value

theorem condition (h : first.Alike second) (value : Yaml.Value) :
    Agree Error.kind Eq (first.condition value) (second.condition value) := by
  unfold ItemKey.condition
  rw [h.field, h.has .all (by decide)]
  split
  · exact .refl _
  · rw [leaves_eq_mapM, leaves_eq_mapM]
    exact (Agree.mapM h.leaf _).bind_same fun leaves => .refl _

end Alike

end ItemKey

/-! ### Lists of modifiers -/

/-- The lists hold the same modifiers, `cased` apart, and the same first comparison. -/
structure SameModifiers (first second : List Modifier) : Prop where
  mem_iff : ∀ modifier, modifier ≠ .cased → (modifier ∈ first ↔ modifier ∈ second)
  comparison : first.findSome? Modifier.comparison? = second.findSome? Modifier.comparison?

theorem checkModifiers_of_unsupported {modifiers : List Modifier} {modifier : Modifier}
    (mem : modifier ∈ modifiers) (unsupported : modifier.supported = false) :
    ∃ reported, checkModifiers modifiers = .error (.unsupportedModifier reported) := by
  cases found : modifiers.find? fun modifier => !modifier.supported with
  | none =>
    have supported := List.find?_eq_none.mp found modifier mem
    simp [unsupported] at supported
  | some reported =>
    refine ⟨reported, ?_⟩
    rw [checkModifiers, found]

theorem checkModifiers_of_supported {modifiers : List Modifier}
    (supported : ∀ modifier ∈ modifiers, modifier.supported = true) :
    checkModifiers modifiers =
      if modifiers.contains .regexFlag && !modifiers.contains .regex then .error .flagWithoutRegex
      else .ok () := by
  have found : modifiers.find? (fun modifier => !modifier.supported) = none := by
    simpa using supported
  rw [checkModifiers, found]

namespace SameModifiers

variable {first second : List Modifier}

theorem contains_eq (h : SameModifiers first second) {modifier : Modifier}
    (counts : modifier ≠ .cased) : first.contains modifier = second.contains modifier := by
  rw [Bool.eq_iff_iff, List.contains_iff_mem, List.contains_iff_mem]
  exact h.mem_iff modifier counts

/-- Both lists hold a modifier that is not supported, or none does and the flags decide. -/
theorem agree_checkModifiers (h : SameModifiers first second) :
    Agree Error.kind Eq (checkModifiers first) (checkModifiers second) := by
  -- A modifier that one list may hold alone is `cased`, which is supported.
  have unsupported_iff {modifier : Modifier} (unsupported : modifier.supported = false) :
      modifier ∈ first ↔ modifier ∈ second := by
    refine h.mem_iff modifier ?_
    rintro rfl
    cases unsupported
  by_cases all : ∀ modifier ∈ first, modifier.supported = true
  · have others : ∀ modifier ∈ second, modifier.supported = true := by
      intro modifier mem
      cases supported : modifier.supported with
      | true => rfl
      | false =>
        rw [← supported]
        exact all modifier ((unsupported_iff supported).mpr mem)
    rw [checkModifiers_of_supported all, checkModifiers_of_supported others,
      h.contains_eq (by decide), h.contains_eq (by decide)]
    exact .refl _
  · obtain ⟨modifier, mem, unsupported⟩ : ∃ modifier ∈ first, modifier.supported = false := by
      simpa using all
    obtain ⟨_, reportedFirst⟩ := checkModifiers_of_unsupported mem unsupported
    obtain ⟨_, reportedSecond⟩ :=
      checkModifiers_of_unsupported ((unsupported_iff unsupported).mp mem) unsupported
    rw [reportedFirst, reportedSecond]
    exact .error rfl

theorem alike (h : SameModifiers first second) (field : Option String) :
    ItemKey.Alike ⟨field, first⟩ ⟨field, second⟩ where
  field := rfl
  has _ counts := h.contains_eq counts
  comparison := h.comparison

end SameModifiers

/-! ### Texts of keys -/

/-- The modifiers that the parts of a key spell; an unknown one is `none`. -/
def spelledBy (parts : List (List Char)) : List (Option Modifier) :=
  parts.map fun part => Modifier.parse? (String.ofList part)

/-- Reading fails at an unknown modifier, and else it keeps what is spelled. -/
theorem readModifiers_cases (parts : List (List Char)) :
    (none ∈ spelledBy parts ∧
      ∃ spelling, readModifiers parts = .error (.unknownModifier spelling)) ∨
    ∃ modifiers, spelledBy parts = modifiers.map some ∧ readModifiers parts = .ok modifiers := by
  induction parts with
  | nil => exact .inr ⟨[], rfl, rfl⟩
  | cons part rest ih =>
    cases known : Modifier.parse? (String.ofList part) with
    | none =>
      refine .inl ⟨?_, String.ofList part, ?_⟩
      · rw [spelledBy, List.map_cons, known]
        exact List.mem_cons_self
      · rw [readModifiers, known]
    | some modifier =>
      rcases ih with ⟨unknown, spelling, failed⟩ | ⟨modifiers, spelled, read⟩
      · refine .inl ⟨List.mem_cons_of_mem _ unknown, spelling, ?_⟩
        rw [readModifiers, known, failed]
        rfl
      · refine .inr ⟨modifier :: modifiers, ?_, ?_⟩
        · rw [List.map_cons, ← spelled, ← known]
          rfl
        · rw [readModifiers, known, read]
          rfl

/-- The first comparison among modifiers of which some may be unknown. -/
def firstComparison? (spelled : List (Option Modifier)) : Option Comparison :=
  spelled.findSome? fun modifier => modifier.bind Modifier.comparison?

theorem firstComparison?_map_some (modifiers : List Modifier) :
    firstComparison? (modifiers.map some) = modifiers.findSome? Modifier.comparison? := by
  rw [firstComparison?, List.findSome?_map]
  rfl

theorem splitAtBars_ne_nil (cs : List Char) : splitAtBars cs ≠ [] := by
  fun_cases splitAtBars cs <;> simp

namespace ItemKey

/-- The part of a key before its first bar. -/
def spelledField (text : String) : List Char :=
  (splitAtBars text.toList).headD []

/-- The modifiers that a key spells behind its bars. -/
def spelledModifiers (text : String) : List (Option Modifier) :=
  spelledBy (splitAtBars text.toList).tail

/-- The texts of two keys have the same field name and spell the same modifiers, in whatever order
and however often, `cased` apart. The first comparison that they spell is the same. -/
structure SpellAlike (first second : String) : Prop where
  field : spelledField first = spelledField second
  mem_iff : ∀ modifier, modifier ≠ some .cased →
    (modifier ∈ spelledModifiers first ↔ modifier ∈ spelledModifiers second)
  comparison :
    firstComparison? (spelledModifiers first) = firstComparison? (spelledModifiers second)

/-- A key is read from its parts. -/
theorem parse_eq (text : String) :
    parse text = (do
      let modifiers ← readModifiers (splitAtBars text.toList).tail
      checkModifiers modifiers
      let field := spelledField text
      return ⟨if field.isEmpty then none else some (String.ofList field), modifiers⟩) := by
  obtain ⟨field, parts, split⟩ := List.exists_cons_of_ne_nil (splitAtBars_ne_nil text.toList)
  simp only [parse, spelledField, split, List.headD_cons, List.tail_cons]

theorem SpellAlike.agree_readModifiers {first second : String} (h : SpellAlike first second) :
    Agree Error.kind SameModifiers (readModifiers (splitAtBars first.toList).tail)
      (readModifiers (splitAtBars second.toList).tail) := by
  obtain ⟨-, mem_iff, comparison⟩ := h
  unfold spelledModifiers at mem_iff comparison
  rcases readModifiers_cases (splitAtBars first.toList).tail with
    ⟨unknown, _, failed⟩ | ⟨modifiers, spelled, read⟩
  · rcases readModifiers_cases (splitAtBars second.toList).tail with
      ⟨-, _, failed'⟩ | ⟨modifiers, spelled, -⟩
    · rw [failed, failed']
      exact .error rfl
    · have unknown' := (mem_iff none (by simp)).mp unknown
      simp [spelled] at unknown'
  · rcases readModifiers_cases (splitAtBars second.toList).tail with
      ⟨unknown, -⟩ | ⟨modifiers', spelled', read'⟩
    · have unknown' := (mem_iff none (by simp)).mpr unknown
      simp [spelled] at unknown'
    · rw [read, read']
      rw [spelled, spelled'] at mem_iff comparison
      refine .ok ⟨fun modifier counts => ?_, ?_⟩
      · simpa using mem_iff (some modifier) (by simpa using counts)
      · simpa only [firstComparison?_map_some] using comparison

/-- Texts that spell the same are read as keys that are alike, or refused alike. -/
theorem agree_parse {first second : String} (h : SpellAlike first second) :
    Agree Error.kind Alike (parse first) (parse second) := by
  rw [parse_eq, parse_eq, h.field]
  refine h.agree_readModifiers.bind fun modifiers modifiers' same => ?_
  exact same.agree_checkModifiers.bind_same fun _ => .ok (same.alike _)

end ItemKey

/-- **Only the set of modifiers matters.** Two keys with the same field name that spell the same
modifiers, apart from their order, their repetition and `cased`, and the same first comparison,
build the same condition from every value, or both fail with errors of the same kind. -/
theorem itemCondition_of_spellAlike {first second : String}
    (h : ItemKey.SpellAlike first second) (value : Yaml.Value) :
    (∃ condition, itemCondition (.text first) value = .ok condition ∧
      itemCondition (.text second) value = .ok condition) ∨
    ∃ error error', itemCondition (.text first) value = .error error ∧
      itemCondition (.text second) value = .error error' ∧ error.kind = error'.kind := by
  apply agree_eq_iff.mp
  exact (ItemKey.agree_parse h).bind fun key key' alike => alike.condition value

/-- Two comparisons in the same order, with one of them repeated, `all` in another place and
`cased` added. -/
theorem itemCondition_of_spellAlike_repeated : ∃ condition,
    itemCondition (.text "Size|lt|gt|all") (.sequence [.number (.int 3), .number (.int 10)]) =
      .ok condition ∧
    itemCondition (.text "Size|all|cased|lt|gt|lt")
      (.sequence [.number (.int 3), .number (.int 10)]) = .ok condition := by
  have alike : ItemKey.SpellAlike "Size|lt|gt|all" "Size|all|cased|lt|gt|lt" := by
    have first : ItemKey.spelledModifiers "Size|lt|gt|all" = [some .lt, some .gt, some .all] := rfl
    have second : ItemKey.spelledModifiers "Size|all|cased|lt|gt|lt" =
        [some .all, some .cased, some .lt, some .gt, some .lt] := rfl
    refine ⟨by decide, fun modifier counts => ?_, ?_⟩
    · rw [first, second]
      simp only [List.mem_cons, List.not_mem_nil, or_false]
      grind
    · rw [first, second]
      rfl
  obtain ⟨condition, built⟩ : ∃ condition, itemCondition (.text "Size|lt|gt|all")
      (.sequence [.number (.int 3), .number (.int 10)]) = .ok condition := ⟨_, rfl⟩
  rcases itemCondition_of_spellAlike alike (.sequence [.number (.int 3), .number (.int 10)]) with
    both | ⟨error, _, failed, -⟩
  · exact both
  · rw [built] at failed
    cases failed

-- In the other order, the other comparison counts.
example : itemCondition (.text "Size|gt|lt") (.number (.int 3)) =
    .ok (.leaf (.compare "Size" .gt (.int 3))) := rfl

end DetectionQuery.Rule
