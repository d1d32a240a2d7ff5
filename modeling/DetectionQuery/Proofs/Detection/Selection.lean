import DetectionQuery.Proofs.Detection.NormalForm

/-!
What a selection asks for.

A selection is read as leaves in three nested levels. An item has one leaf for each of its values,
of which one has to hold, or all with the modifier `all`; a mapping has items that all have to hold;
a list has entries, mappings or keywords, of which one has to hold. `SelectionRead` relates a
document to this reading, and `Selection.holds` and `Selection.leaves` say what the reading means.

The condition of a selection expresses its reading (`selectionCondition_expresses`). On every level
the parts are put together by `Condition.group`, which leaves out groups of one member, so a single
lemma about it carries all three (`Condition.expresses_of_group`).
-/

namespace DetectionQuery

namespace Query

/-- The truth of several statements under a connective. -/
def Connective.joins : Connective → List Bool → Bool
  | .and, values => values.all id
  | .or, values => values.any id

namespace Condition

/-- The condition is true whenever the statement is, and has the given leaves from left to right. -/
structure Expresses (condition : Condition) (statement : (Leaf → Bool) → Bool)
    (leaves : List Leaf) : Prop where
  holds : ∀ truth, condition.holds truth = statement truth
  leaves : condition.leaves = leaves

theorem expresses_leaf (leaf : Leaf) :
    (Condition.leaf leaf).Expresses (fun truth => truth leaf) [leaf] := by
  constructor
  · intro truth
    exact holds_leaf leaf
  · rw [Condition.leaves]

section

variable {Part : Type} {statement : Part → (Leaf → Bool) → Bool} {leavesOf : Part → List Leaf}
  {children : List Condition} {parts : List Part}

theorem holds_of_expresses
    (h : List.Forall₂ (fun child part => child.Expresses (statement part) (leavesOf part))
      children parts) (truth : Leaf → Bool) :
    children.map (holds truth) = parts.map (statement · truth) := by
  induction h with
  | nil => rfl
  | cons head _ ih => rw [List.map_cons, List.map_cons, head.holds, ih]

theorem leaves_of_expresses
    (h : List.Forall₂ (fun child part => child.Expresses (statement part) (leavesOf part))
      children parts) :
    children.flatMap leaves = parts.flatMap leavesOf := by
  induction h with
  | nil => rfl
  | cons head _ ih => rw [List.flatMap_cons, List.flatMap_cons, head.leaves, ih]

/-- A group of conditions expresses what they do, joined by its connective. -/
theorem expresses_of_group {connective : Connective} {condition : Condition}
    (members : List.Forall₂ (fun child part => child.Expresses (statement part) (leavesOf part))
      children parts)
    (h : group connective children = .ok condition) :
    condition.Expresses (fun truth => connective.joins (parts.map (statement · truth)))
      (parts.flatMap leavesOf) := by
  constructor
  · intro truth
    rw [holds_of_group h, ← holds_of_expresses members truth]
    cases connective <;> simp [connectiveHolds, Connective.joins]
  · rw [leaves_of_group h, leaves_of_expresses members]

end

end Condition

end Query

namespace Rule

open DetectionQuery.Query (Condition Connective Leaf)

/-! ### Readings -/

/-- An item of a mapping: its key, and one leaf for each of its values. -/
structure Item where
  key : ItemKey
  leaves : List Leaf

/-- One leaf of an item has to hold, or all with the modifier `all`. -/
def Item.holds (truth : Leaf → Bool) (item : Item) : Bool :=
  if .all ∈ item.key.modifiers then item.leaves.all truth else item.leaves.any truth

/-- An entry of a selection: a keyword, or the items of a mapping. -/
inductive Entry where
  | keyword (leaf : Leaf)
  | mapping (items : List Item)

namespace Entry

/-- All items have to hold. -/
def holds (truth : Leaf → Bool) : Entry → Bool
  | .keyword leaf => truth leaf
  | .mapping items => items.all (Item.holds truth)

def leaves : Entry → List Leaf
  | .keyword leaf => [leaf]
  | .mapping items => items.flatMap Item.leaves

end Entry

/-- A selection: one entry, or a list of entries. -/
inductive Selection where
  | single (entry : Entry)
  | list (entries : List Entry)

namespace Selection

/-- One entry of a list has to hold. -/
def holds (truth : Leaf → Bool) : Selection → Bool
  | .single entry => entry.holds truth
  | .list entries => entries.any (Entry.holds truth)

def leaves : Selection → List Leaf
  | .single entry => entry.leaves
  | .list entries => entries.flatMap Entry.leaves

end Selection

/-- An entry of a mapping is read as an item: its key is that of the item, and the key builds the
leaves of the item from the values, one from each. -/
def ItemRead (entry : Yaml.Value × Yaml.Value) (item : Item) : Prop :=
  ∃ text, entry.1.text? = some text ∧ ItemKey.parse text = .ok item.key ∧
    List.Forall₂ (fun value leaf => item.key.leaf value = .ok (.leaf leaf))
      (ItemKey.values entry.2) item.leaves

/-- A value of a list is read as an entry. -/
inductive EntryRead : Yaml.Value → Entry → Prop where
  | mapping {entries : List (Yaml.Value × Yaml.Value)} {items : List Item} :
      List.Forall₂ ItemRead entries items → EntryRead (.mapping entries) (.mapping items)
  | text (s : String) : EntryRead (.text s) (.keyword (.equals none (.text (.ofText s))))
  | number {n : Yaml.Number} {number : Query.Number} :
      queryNumber n = .ok number → EntryRead (.number n) (.keyword (.equals none (.number number)))

/-- A value is read as a selection. On its own, a number is none. -/
inductive SelectionRead : Yaml.Value → Selection → Prop where
  | mapping {entries : List (Yaml.Value × Yaml.Value)} {items : List Item} :
      List.Forall₂ ItemRead entries items →
      SelectionRead (.mapping entries) (.single (.mapping items))
  | text (s : String) :
      SelectionRead (.text s) (.single (.keyword (.equals none (.text (.ofText s)))))
  | list {values : List Yaml.Value} {entries : List Entry} :
      List.Forall₂ EntryRead values entries → SelectionRead (.sequence values) (.list entries)

/-! ### Leaves -/

/-- The result of a step, if there is one, is a leaf. -/
def GivesLeaf (step : Except Error Condition) : Prop :=
  ∀ condition, step = .ok condition → ∃ leaf, condition = .leaf leaf

namespace GivesLeaf

theorem ok (leaf : Leaf) : GivesLeaf (.ok (.leaf leaf)) := by
  intro condition h
  cases h
  exact ⟨leaf, rfl⟩

theorem error (e : Error) : GivesLeaf (.error e) := by
  intro condition h
  cases h

theorem bind {α : Type} {x : Except Error α} {f : α → Except Error Condition}
    (h : ∀ a, GivesLeaf (f a)) : GivesLeaf (x >>= f) := by
  intro condition result
  obtain ⟨a, -, result⟩ := bind_eq_ok_iff.mp result
  exact h a condition result

end GivesLeaf

namespace ItemKey

theorem givesLeaf_plainLeaf (key : ItemKey) (value : Yaml.Value) :
    GivesLeaf (key.plainLeaf value) := by
  have asText (value : Yaml.Value) :
      GivesLeaf (do return key.equals (.text (← key.pattern value))) :=
    .bind fun pattern => .ok _
  cases value with
  | null => exact .bind fun field => .ok _
  | bool b =>
    rw [plainLeaf]
    split
    · exact asText _
    · exact .ok _
  | number n =>
    rw [plainLeaf]
    split
    · exact asText _
    · exact .bind fun number => .ok _
  | _ => exact asText _

/-- A key builds one leaf from a value. -/
theorem givesLeaf_leaf (key : ItemKey) (value : Yaml.Value) : GivesLeaf (key.leaf value) := by
  unfold leaf
  split
  · split
    · exact .bind fun field => .ok _
    · exact .error _
  · split
    · split
      · exact .bind fun number => .bind fun field => .ok _
      · exact .error _
    · split
      · exact .bind fun other => .bind fun field => .ok _
      · split
        · exact .bind fun expression => .ok _
        · exact givesLeaf_plainLeaf key value

end ItemKey

/-! ### Conditions of readings -/

theorem Item.holds_eq_joins (truth : Leaf → Bool) (item : Item) :
    item.holds truth =
      (if item.key.has .all then Connective.and else .or).joins (item.leaves.map truth) := by
  by_cases all : .all ∈ item.key.modifiers <;> simp [holds, ItemKey.has, all, Connective.joins]

theorem ItemKey.exists_leaf {key : ItemKey} (value : Yaml.Value) (condition : Condition)
    (h : key.leaf value = .ok condition) :
    ∃ leaf, key.leaf value = .ok (.leaf leaf) ∧
      condition.Expresses (fun truth => truth leaf) [leaf] := by
  obtain ⟨leaf, rfl⟩ := key.givesLeaf_leaf value condition h
  exact ⟨leaf, h, Condition.expresses_leaf leaf⟩

/-- The values of an item become its leaves, joined as its key asks for. -/
theorem exists_item {key value : Yaml.Value} {condition : Condition}
    (h : itemCondition key value = .ok condition) :
    ∃ item, ItemRead (key, value) item ∧
      condition.Expresses (fun truth => item.holds truth) item.leaves := by
  unfold itemCondition at h
  split at h
  · next text htext =>
    obtain ⟨parsed, hparsed, h⟩ := bind_eq_ok_iff.mp h
    unfold ItemKey.condition at h
    split at h
    · cases h
    · next first rest hvalues =>
      obtain ⟨conditions, hconditions, h⟩ := bind_eq_ok_iff.mp h
      rw [ItemKey.leaves_eq_mapM, ← hvalues] at hconditions
      obtain ⟨leaves, built, expressed⟩ := exists_forall₂_of_mapM hconditions ItemKey.exists_leaf
      have joined := Condition.expresses_of_group expressed h
      refine ⟨⟨parsed, leaves⟩, ⟨text, htext, hparsed, built⟩, ?_, ?_⟩
      · intro truth
        rw [Item.holds_eq_joins]
        exact joined.holds truth
      · rw [joined.leaves]
        simp
  · cases h

/-- The items of a mapping are joined by `and`. -/
theorem exists_items {entries : List (Yaml.Value × Yaml.Value)} {condition : Condition}
    (h : mappingCondition entries = .ok condition) :
    ∃ items, List.Forall₂ ItemRead entries items ∧
      condition.Expresses (fun truth => (Entry.mapping items).holds truth)
        (Entry.mapping items).leaves := by
  obtain ⟨conditions, hconditions, h⟩ := bind_eq_ok_iff.mp h
  rw [itemConditions_eq_mapM] at hconditions
  obtain ⟨items, read, expressed⟩ :=
    exists_forall₂_of_mapM hconditions fun entry condition => exists_item
  have joined := Condition.expresses_of_group expressed h
  refine ⟨items, read, ?_, joined.leaves⟩
  intro truth
  rw [joined.holds]
  simp [Connective.joins, Entry.holds]

theorem exists_entry (value : Yaml.Value) (condition : Condition)
    (h : entryCondition value = .ok condition) :
    ∃ entry, EntryRead value entry ∧
      condition.Expresses (fun truth => entry.holds truth) entry.leaves := by
  unfold entryCondition at h
  split at h
  · next entries =>
    obtain ⟨items, read, expressed⟩ := exists_items h
    exact ⟨.mapping items, .mapping read, expressed⟩
  · next s =>
    cases h
    exact ⟨_, .text s, Condition.expresses_leaf _⟩
  · next n =>
    obtain ⟨number, hnumber, h⟩ := bind_eq_ok_iff.mp h
    cases h
    exact ⟨_, .number hnumber, Condition.expresses_leaf _⟩
  · cases h

/-- **Selections keep their meaning and their leaves.** The condition of a selection holds, whatever
its leaves say, exactly if the selection does: all items of a mapping, one entry of a list, and of
the leaves of an item one or all. Its leaves from left to right are those that the keys and keywords
of the document give, in the order of the document. -/
theorem selectionCondition_expresses {value : Yaml.Value} {condition : Condition}
    (h : selectionCondition value = .ok condition) :
    ∃ selection, SelectionRead value selection ∧
      (∀ truth, condition.holds truth = selection.holds truth) ∧
      condition.leaves = selection.leaves := by
  unfold selectionCondition at h
  split at h
  · next entries =>
    obtain ⟨items, read, expressed⟩ := exists_items h
    exact ⟨.single (.mapping items), .mapping read, expressed.holds, expressed.leaves⟩
  · next values =>
    obtain ⟨conditions, hconditions, h⟩ := bind_eq_ok_iff.mp h
    rw [entryConditions_eq_mapM] at hconditions
    obtain ⟨entries, read, expressed⟩ := exists_forall₂_of_mapM hconditions exists_entry
    have joined := Condition.expresses_of_group expressed h
    refine ⟨.list entries, .list read, ?_, joined.leaves⟩
    intro truth
    rw [joined.holds]
    simp [Connective.joins, Selection.holds]
  · next s =>
    cases h
    have expressed := Condition.expresses_leaf (.equals none (.text (.ofText s)))
    exact ⟨_, .text s, expressed.holds, expressed.leaves⟩
  · cases h

/-- A list of a mapping, whose second item asks for all of its values, and two keywords. -/
def encodedCommand : Yaml.Value :=
  .sequence [
    .mapping [(.text "Image", .text "cmd.exe"),
      (.text "CommandLine|re|all", .sequence [.text "-enc", .number (.int 64)])],
    .text "who*", .number (.int 7)]

/-- The condition has a group for the mapping and one for the item in it, and none for the item with
a single value. -/
theorem selectionCondition_expresses_encodedCommand :
    ∃ image option sixtyFour who seven : Leaf,
      selectionCondition encodedCommand = .ok (.or [
        .and [.leaf image, .and [.leaf option, .leaf sixtyFour]], .leaf who, .leaf seven]) ∧
      ∃ selection, SelectionRead encodedCommand selection ∧
        selection.leaves = [image, option, sixtyFour, who, seven] ∧
        ∀ truth, selection.holds truth =
          (truth image && (truth option && truth sixtyFour) || truth who || truth seven) := by
  obtain ⟨image, option, sixtyFour, who, seven, accepted⟩ :
      ∃ image option sixtyFour who seven : Leaf,
        selectionCondition encodedCommand = .ok (.or [
          .and [.leaf image, .and [.leaf option, .leaf sixtyFour]], .leaf who, .leaf seven]) :=
    ⟨_, _, _, _, _, rfl⟩
  obtain ⟨selection, read, holds, leaves⟩ := selectionCondition_expresses accepted
  refine ⟨image, option, sixtyFour, who, seven, accepted, selection, read, ?_, ?_⟩
  · rw [← leaves]
    rfl
  · intro truth
    rw [← holds]
    simp [Bool.or_assoc]

end Rule

end DetectionQuery
