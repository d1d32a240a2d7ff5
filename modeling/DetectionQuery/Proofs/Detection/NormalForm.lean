import DetectionQuery.Proofs.Expression.Taken
import DetectionQuery.Proofs.Outcome
import DetectionQuery.Proofs.Query.Condition
import DetectionQuery.Rule.Detection
import Mathlib.Data.List.Forall2

/-!
The normal form of compiled detections.

Every condition tree that a detection is compiled to is in normal form (`compile_normal`): a group
has at least two members, a leaf compares with a single value, and a field name is what stood before
the first bar of a key. The invariant is carried along the way that a condition is built: from a
key and a value to a leaf, from leaves to items and selections, and from selections to the condition
of an expression. All groups on this way are built by `Condition.group`, which keeps it
(`normal_of_group`).
-/

namespace DetectionQuery

/-! ### Conditions in normal form -/

namespace Query

/-- Field names that a key can hold before its first bar. -/
def IsFieldName (name : String) : Prop :=
  name ≠ "" ∧ '|' ∉ name.toList

/-- Single values; a text has wildcards exactly if a marker stands in it. -/
def Value.Normal : Value → Prop
  | .text pattern =>
    pattern.wildcards = true ↔ '*' ∈ pattern.text.toList ∨ '?' ∈ pattern.text.toList
  | .list _ => False
  | .expansion _ => False
  | _ => True

/-- Leaves that a selection can ask for. Only a field can be compared with another field, and the
equality of numbers is not written as a comparison. -/
def Leaf.Normal : Leaf → Prop
  | .equals (some field) value => IsFieldName field ∧ value.Normal
  | .equals none value => value.Normal ∧ ∀ other, value ≠ .fieldRef other
  | .compare field comparison _ => IsFieldName field ∧ comparison ≠ .eq
  | .isNull field => IsFieldName field
  | .fieldExists field _ => IsFieldName field

namespace Condition

mutual

/-- The members of each group of a condition. -/
def groups : Condition → List (List Condition)
  | .and children => children :: groupsAll children
  | .or children => children :: groupsAll children
  | .not child => child.groups
  | .leaf _ => []

def groupsAll : List Condition → List (List Condition)
  | [] => []
  | child :: rest => child.groups ++ groupsAll rest

end

theorem mem_groupsAll {children members : List Condition} :
    members ∈ groupsAll children ↔ ∃ child ∈ children, members ∈ child.groups := by
  induction children with
  | nil => simp [groupsAll]
  | cons child rest ih => simp [groupsAll, ih]

/-- Conditions in normal form: each group has at least two members, and the leaves are normal. -/
structure Normal (condition : Condition) : Prop where
  groups : ∀ members ∈ condition.groups, 2 ≤ members.length
  leaves : ∀ leaf ∈ condition.leaves, leaf.Normal

theorem normal_leaf {leaf : Leaf} (h : leaf.Normal) : (Condition.leaf leaf).Normal := by
  constructor
  · intro members mem
    cases mem
  · intro other mem
    obtain rfl := List.mem_singleton.mp mem
    exact h

theorem Normal.not {child : Condition} (h : child.Normal) : (Condition.not child).Normal := by
  constructor
  · intro members mem
    rw [Condition.groups] at mem
    exact h.groups members mem
  · intro leaf mem
    rw [Condition.leaves] at mem
    exact h.leaves leaf mem

/-- Groups of at least two normal members are normal, whatever joins them. -/
theorem normal_of_members {children : List Condition} (several : 2 ≤ children.length)
    (members : ∀ child ∈ children, child.Normal) {condition : Condition}
    (groups : condition.groups = children :: groupsAll children)
    (leaves : condition.leaves = leavesAll children) : condition.Normal := by
  constructor
  · intro others mem
    rw [groups] at mem
    rcases List.mem_cons.mp mem with rfl | mem
    · exact several
    · obtain ⟨child, hchild, mem⟩ := mem_groupsAll.mp mem
      exact (members child hchild).groups others mem
  · intro leaf mem
    rw [leaves] at mem
    obtain ⟨child, hchild, mem⟩ := mem_leavesAll.mp mem
    exact (members child hchild).leaves leaf mem

theorem normal_of_group {connective : Connective} {children : List Condition}
    {condition : Condition} (h : group connective children = .ok condition)
    (members : ∀ child ∈ children, child.Normal) : condition.Normal := by
  match children with
  | [] => cases connective <;> cases h
  | [child] =>
    cases h
    exact members _ (List.mem_singleton.mpr rfl)
  | child :: next :: rest =>
    have several : 2 ≤ (child :: next :: rest).length := by simp
    cases connective with
    | and =>
      cases h
      exact normal_of_members several members (by rw [Condition.groups]) (by rw [Condition.leaves])
    | or =>
      cases h
      exact normal_of_members several members (by rw [Condition.groups]) (by rw [Condition.leaves])

end Condition

theorem normal_ofText (text : String) : (Value.text (Pattern.ofText text)).Normal := by
  simp [Value.Normal, Pattern.ofText]

end Query

namespace Rule

open DetectionQuery.Query (Condition Connective IsFieldName Leaf Pattern Value normal_ofText)

/-! ### Keys -/

theorem bar_not_mem_splitAtBars {cs part : List Char} (h : part ∈ splitAtBars cs) : '|' ∉ part := by
  fun_induction splitAtBars cs generalizing part with
  | case1 =>
    obtain rfl := List.mem_singleton.mp h
    exact List.not_mem_nil
  | case2 rest ih =>
    rcases List.mem_cons.mp h with rfl | mem
    · exact List.not_mem_nil
    · exact ih mem
  | case3 c rest other first parts split ih =>
    rcases List.mem_cons.mp h with rfl | mem
    · have tail := ih (split ▸ List.mem_cons_self)
      intro bar
      rcases List.mem_cons.mp bar with rfl | bar
      · exact other rfl
      · exact tail bar
    · exact ih (split ▸ List.mem_cons_of_mem first mem)
  | case4 c rest other split ih =>
    obtain rfl := List.mem_singleton.mp h
    intro bar
    exact other (List.mem_singleton.mp bar).symm

namespace ItemKey

/-- The field of a key, if it has one, is a field name. -/
def Valid (key : ItemKey) : Prop :=
  ∀ field, key.field = some field → IsFieldName field

theorem valid_of_parse {text : String} {key : ItemKey} (h : parse text = .ok key) : key.Valid := by
  intro name hname
  unfold parse at h
  split at h
  · cases h
    cases hname
  · next field parts split =>
    obtain ⟨modifiers, -, h⟩ := bind_eq_ok_iff.mp h
    obtain ⟨-, -, h⟩ := bind_eq_ok_iff.mp h
    cases h
    simp only [Option.ite_none_left_eq_some, Option.some.injEq] at hname
    obtain ⟨nonempty, rfl⟩ := hname
    constructor
    · intro empty
      apply nonempty
      have chars := congrArg String.toList empty
      simpa using chars
    · rw [String.toList_ofList]
      exact bar_not_mem_splitAtBars (split ▸ List.mem_cons_self)

theorem field_of_requiredField {key : ItemKey} {field : String}
    (h : key.requiredField = .ok field) : key.field = some field := by
  unfold requiredField at h
  split at h
  · next other hother =>
    cases h
    exact hother
  · cases h

theorem comparison?_ne_eq {key : ItemKey} : key.comparison? ≠ some .eq := by
  intro h
  obtain ⟨modifier, -, found⟩ := List.exists_of_findSome?_eq_some h
  cases modifier <;> cases found

/-! ### Leaves and items -/

variable {key : ItemKey}

theorem Valid.requiredField (valid : key.Valid) {field : String}
    (h : key.requiredField = .ok field) : IsFieldName field :=
  valid field (field_of_requiredField h)

theorem Valid.equals (valid : key.Valid) {value : Value} (normal : value.Normal)
    (noField : ∀ other, value ≠ .fieldRef other) : (key.equals value).Normal := by
  refine Condition.normal_leaf ?_
  cases field : key.field with
  | none => exact ⟨normal, noField⟩
  | some name => exact ⟨valid name field, normal⟩

theorem Valid.pattern (valid : key.Valid) {value : Yaml.Value} {pattern : Pattern}
    (h : key.pattern value = .ok pattern) : (key.equals (.text pattern)).Normal := by
  obtain ⟨text, -, h⟩ := bind_eq_ok_iff.mp h
  cases h
  exact valid.equals (normal_ofText _) (by simp)

theorem Valid.plainLeaf (valid : key.Valid) {value : Yaml.Value} {condition : Condition}
    (h : key.plainLeaf value = .ok condition) : condition.Normal := by
  -- Truth values and numbers are compared as texts if a modifier asks for it.
  have asText {value : Yaml.Value}
      (h : (do return key.equals (.text (← key.pattern value))) = Except.ok condition) :
      condition.Normal := by
    obtain ⟨pattern, hpattern, h⟩ := bind_eq_ok_iff.mp h
    cases h
    exact valid.pattern hpattern
  cases value with
  | null =>
    obtain ⟨field, hfield, h⟩ := bind_eq_ok_iff.mp h
    cases h
    exact Condition.normal_leaf (valid.requiredField hfield)
  | bool b =>
    rw [ItemKey.plainLeaf] at h
    split at h
    · exact asText h
    · cases h
      exact valid.equals trivial (by simp)
  | number n =>
    rw [ItemKey.plainLeaf] at h
    split at h
    · exact asText h
    · obtain ⟨number, -, h⟩ := bind_eq_ok_iff.mp h
      cases h
      exact valid.equals trivial (by simp)
  | text s => exact asText h
  | sequence items => exact asText h
  | mapping entries => exact asText h
  | tagged tag content => exact asText h

theorem Valid.leaf (valid : key.Valid) {value : Yaml.Value} {condition : Condition}
    (h : key.leaf value = .ok condition) : condition.Normal := by
  unfold ItemKey.leaf at h
  split at h
  · split at h
    · obtain ⟨field, hfield, h⟩ := bind_eq_ok_iff.mp h
      cases h
      exact Condition.normal_leaf (valid.requiredField hfield)
    · cases h
  · split at h
    · next comparison hcomparison =>
      split at h
      · obtain ⟨number, -, h⟩ := bind_eq_ok_iff.mp h
        obtain ⟨field, hfield, h⟩ := bind_eq_ok_iff.mp h
        cases h
        refine Condition.normal_leaf ⟨valid.requiredField hfield, ?_⟩
        rintro rfl
        exact comparison?_ne_eq hcomparison
      · cases h
    · split at h
      · obtain ⟨other, -, h⟩ := bind_eq_ok_iff.mp h
        obtain ⟨field, hfield, h⟩ := bind_eq_ok_iff.mp h
        cases h
        exact Condition.normal_leaf ⟨valid.requiredField hfield, trivial⟩
      · split at h
        · obtain ⟨expression, -, h⟩ := bind_eq_ok_iff.mp h
          cases h
          exact valid.equals trivial (by simp)
        · exact valid.plainLeaf h

theorem leaves_eq_mapM (key : ItemKey) (values : List Yaml.Value) :
    key.leaves values = values.mapM key.leaf := by
  induction values with
  | nil => rfl
  | cons value rest ih => rw [leaves, List.mapM_cons, ih]

theorem Valid.condition (valid : key.Valid) {value : Yaml.Value} {condition : Condition}
    (h : key.condition value = .ok condition) : condition.Normal := by
  unfold ItemKey.condition at h
  split at h
  · cases h
  · obtain ⟨leaves, hleaves, h⟩ := bind_eq_ok_iff.mp h
    rw [leaves_eq_mapM] at hleaves
    exact Condition.normal_of_group h
      (forall_of_mapM hleaves fun value _ leaf hleaf => valid.leaf hleaf)

end ItemKey

/-! ### Selections -/

theorem itemConditions_eq_mapM (entries : List (Yaml.Value × Yaml.Value)) :
    itemConditions entries = entries.mapM fun entry => itemCondition entry.1 entry.2 := by
  induction entries with
  | nil => rfl
  | cons entry rest ih => rw [itemConditions, List.mapM_cons, ih]

theorem entryConditions_eq_mapM (items : List Yaml.Value) :
    entryConditions items = items.mapM entryCondition := by
  induction items with
  | nil => rfl
  | cons item rest ih => rw [entryConditions, List.mapM_cons, ih]

theorem normal_of_itemCondition {key value : Yaml.Value} {condition : Condition}
    (h : itemCondition key value = .ok condition) : condition.Normal := by
  unfold itemCondition at h
  split at h
  · obtain ⟨key, hkey, h⟩ := bind_eq_ok_iff.mp h
    exact (ItemKey.valid_of_parse hkey).condition h
  · cases h

theorem normal_of_mappingCondition {entries : List (Yaml.Value × Yaml.Value)}
    {condition : Condition} (h : mappingCondition entries = .ok condition) :
    condition.Normal := by
  obtain ⟨items, hitems, h⟩ := bind_eq_ok_iff.mp h
  rw [itemConditions_eq_mapM] at hitems
  exact Condition.normal_of_group h
    (forall_of_mapM hitems fun entry _ item hitem => normal_of_itemCondition hitem)

theorem normal_keyword (text : String) : (keyword text).Normal :=
  Condition.normal_leaf ⟨normal_ofText text, by simp⟩

theorem normal_of_entryCondition {item : Yaml.Value} {condition : Condition}
    (h : entryCondition item = .ok condition) : condition.Normal := by
  unfold entryCondition at h
  split at h
  · exact normal_of_mappingCondition h
  · cases h
    exact normal_keyword _
  · obtain ⟨number, -, h⟩ := bind_eq_ok_iff.mp h
    cases h
    exact Condition.normal_leaf ⟨trivial, by simp⟩
  · cases h

theorem normal_of_selectionCondition {value : Yaml.Value} {condition : Condition}
    (h : selectionCondition value = .ok condition) : condition.Normal := by
  unfold selectionCondition at h
  split at h
  · exact normal_of_mappingCondition h
  · obtain ⟨entries, hentries, h⟩ := bind_eq_ok_iff.mp h
    rw [entryConditions_eq_mapM] at hentries
    exact Condition.normal_of_group h
      (forall_of_mapM hentries fun item _ entry hentry => normal_of_entryCondition hentry)
  · cases h
    exact normal_keyword _
  · cases h

/-! ### Expressions -/

namespace Expression

variable {selections : List NamedSelection}

theorem mem_of_named {target : String} {conditions : List Condition} {condition : Condition}
    (h : named target selections = .ok conditions) (mem : condition ∈ conditions) :
    ∃ selection ∈ selections, selection.2 = condition := by
  unfold named at h
  split at h
  · cases h
    obtain ⟨selection, hselection, rfl⟩ := List.mem_map.mp mem
    exact ⟨selection, List.mem_of_mem_filter hselection, rfl⟩
  · split at h
    · cases h
      obtain ⟨selection, hselection, rfl⟩ := List.mem_map.mp mem
      exact ⟨selection, List.mem_of_mem_filter hselection, rfl⟩
    · cases h

variable (normal : ∀ selection ∈ selections, selection.2.Normal)
include normal

theorem normal_of_resolveName {wanted : String} {condition : Condition}
    (h : resolveName selections wanted = .ok condition) : condition.Normal := by
  unfold resolveName at h
  split at h
  · next name found hfound =>
    cases h
    exact normal _ (List.mem_of_find?_eq_some hfound)
  · cases h

theorem normal_of_resolveQuantified {quantifier : Quantifier} {target : String}
    {condition : Condition} (h : resolveQuantified quantifier target selections = .ok condition) :
    condition.Normal := by
  obtain ⟨conditions, hnamed, h⟩ := bind_eq_ok_iff.mp h
  have members : ∀ member ∈ conditions, member.Normal := by
    intro member mem
    obtain ⟨selection, hselection, rfl⟩ := mem_of_named hnamed mem
    exact normal selection hselection
  split at h
  · cases h
  · cases quantifier with
    | all => exact Condition.normal_of_group h members
    | count least =>
      simp only at h
      split at h
      · exact Condition.normal_of_group h members
      · cases h

theorem normal_of_resolveUnder {e : Expression} {context : Option Connective}
    {conditions : List Condition} (h : e.resolveUnder selections context = .ok conditions) :
    ∀ condition ∈ conditions, condition.Normal := by
  induction e generalizing context conditions with
  | name wanted =>
    obtain ⟨condition, hname, result⟩ := bind_eq_ok_iff.mp h
    cases result
    exact List.forall_mem_singleton.mpr (normal_of_resolveName normal hname)
  | not operand ih =>
    obtain ⟨inner, hoperand, result⟩ := bind_eq_ok_iff.mp h
    cases result
    intro condition mem
    obtain ⟨child, hchild, rfl⟩ := List.mem_map.mp mem
    exact (ih hoperand child hchild).not
  | quantified quantifier operand =>
    cases operand with
    | name target =>
      obtain ⟨condition, hquantified, result⟩ := bind_eq_ok_iff.mp h
      cases result
      exact List.forall_mem_singleton.mpr (normal_of_resolveQuantified normal hquantified)
    | _ => cases h
  | binary connective left right ihl ihr =>
    obtain ⟨first, hleft, further⟩ := bind_eq_ok_iff.mp h
    obtain ⟨second, hright, result⟩ := bind_eq_ok_iff.mp further
    have members : ∀ member ∈ first ++ second, member.Normal := by
      intro member mem
      rcases List.mem_append.mp mem with mem | mem
      · exact ihl hleft member mem
      · exact ihr hright member mem
    split at result
    · cases result
      exact members
    · obtain ⟨group, hgroup, result⟩ := bind_eq_ok_iff.mp result
      cases result
      exact List.forall_mem_singleton.mpr (Condition.normal_of_group hgroup members)

theorem normal_of_resolve {e : Expression} {condition : Condition}
    (h : e.resolve selections = .ok condition) : condition.Normal := by
  obtain ⟨conditions, hunder, hgroup⟩ := bind_eq_ok_iff.mp h
  exact Condition.normal_of_group hgroup (normal_of_resolveUnder normal hunder)

end Expression

/-! ### Detections -/

namespace Detection

open Expression (readAll tokenize)

/-- The value of the last entry with the key `condition`. -/
def conditionValue? (entries : List (Yaml.Value × Yaml.Value)) : Option Yaml.Value :=
  (entries.reverse.find? fun entry => entry.1.text? = some "condition").map Prod.snd

/-- The conditions that a detection lists: the items of its condition entry if that is a list, and
otherwise the entry itself. -/
def conditionItems (detection : Yaml.Value) : List Yaml.Value :=
  match detection.entries?.bind conditionValue? with
  | some value => ItemKey.values value
  | none => []

/-- A condition tree is what a listed condition is resolved to. -/
def ResolvedTo (selections : List NamedSelection) (item : Yaml.Value) (condition : Condition) :
    Prop :=
  ∃ text e, item.text? = some text ∧ Expression.read text = .ok e ∧
    e.resolve selections = .ok condition

theorem conditionValue?_cons (entry : Yaml.Value × Yaml.Value)
    (rest : List (Yaml.Value × Yaml.Value)) :
    conditionValue? (entry :: rest) = (conditionValue? rest).or
      (if entry.1.text? = some "condition" then some entry.2 else none) := by
  unfold conditionValue?
  rw [List.reverse_cons, List.find?_append, Option.map_or, List.find?_singleton]
  by_cases isCondition : entry.1.text? = some "condition"
  · simp [isCondition]
  · simp [isCondition]

/-- Reading the entries of a detection keeps its last condition entry and compiles the others. -/
theorem parts_of_readEntries {condition : Option Yaml.Value}
    {entries : List (Yaml.Value × Yaml.Value)} {parts : Parts}
    (h : readEntries condition entries = .ok parts) :
    parts.condition = (conditionValue? entries).or condition ∧
      ∀ selection ∈ parts.selections, selection.2.Normal := by
  induction entries generalizing condition parts with
  | nil =>
    cases h
    exact ⟨rfl, by simp⟩
  | cons entry rest ih =>
    rw [readEntries] at h
    rw [conditionValue?_cons]
    split at h
    · cases h
    · next isCondition =>
      obtain ⟨last, normal⟩ := ih h
      refine ⟨?_, normal⟩
      rw [last, if_pos isCondition, Option.or_assoc, Option.some_or]
    · next isTimeframe =>
      obtain ⟨last, normal⟩ := ih h
      refine ⟨?_, normal⟩
      rw [last, if_neg (by simp [isTimeframe]), Option.or_none]
    · next name other _ isName =>
      obtain ⟨selection, hselection, h⟩ := bind_eq_ok_iff.mp h
      obtain ⟨more, hmore, h⟩ := bind_eq_ok_iff.mp h
      cases h
      obtain ⟨last, normal⟩ := ih hmore
      have noCondition : entry.1.text? ≠ some "condition" := by
        rw [isName]
        exact fun same => other (Option.some.inj same)
      refine ⟨?_, List.forall_mem_cons.mpr ⟨normal_of_selectionCondition hselection, normal⟩⟩
      rw [last, if_neg noCondition, Option.or_none]

theorem resolvedTo_of_conditionTexts {selections : List NamedSelection} {items : List Yaml.Value}
    {texts : List String} {conditions : List Condition} (htexts : conditionTexts items = .ok texts)
    (hconditions : resolveAll selections texts = .ok conditions) :
    List.Forall₂ (ResolvedTo selections) items conditions := by
  induction items generalizing texts conditions with
  | nil =>
    cases htexts
    cases hconditions
    exact .nil
  | cons item rest ih =>
    rw [conditionTexts] at htexts
    split at htexts
    · next text htext =>
      obtain ⟨more, hmore, htexts⟩ := bind_eq_ok_iff.mp htexts
      cases htexts
      obtain ⟨e, hread, hconditions⟩ := bind_eq_ok_iff.mp hconditions
      obtain ⟨condition, hresolve, hconditions⟩ := bind_eq_ok_iff.mp hconditions
      obtain ⟨others, hothers, hconditions⟩ := bind_eq_ok_iff.mp hconditions
      cases hconditions
      exact .cons ⟨text, e, htext, hread, hresolve⟩ (ih hmore hothers)
    · cases htexts

theorem normal_of_resolvedTo {selections : List NamedSelection} {items : List Yaml.Value}
    {conditions : List Condition} (normal : ∀ selection ∈ selections, selection.2.Normal)
    (resolved : List.Forall₂ (ResolvedTo selections) items conditions) :
    ∀ condition ∈ conditions, condition.Normal := by
  induction resolved with
  | nil => simp
  | cons head _ ih =>
    obtain ⟨text, e, -, -, resolve⟩ := head
    exact List.forall_mem_cons.mpr ⟨Expression.normal_of_resolve normal resolve, ih⟩

/-- A condition entry is a list of at least one condition, or one condition. -/
theorem conditionTexts_of_conditionEntry {entry : Option Yaml.Value} {texts : List String}
    (h : conditionEntry entry = .ok texts) :
    ∃ value, entry = some value ∧ conditionTexts (ItemKey.values value) = .ok texts ∧
      ItemKey.values value ≠ [] := by
  unfold conditionEntry at h
  split at h
  · cases h
    exact ⟨_, rfl, rfl, by simp [ItemKey.values]⟩
  · exact ⟨_, rfl, h, by simp [ItemKey.values]⟩
  · cases h

/-- **Compiled detections are in normal form.** A detection is compiled to one condition tree for
each of the conditions it lists, of which there is at least one, and every tree is in normal form:
its groups have at least two members, and its leaves are normal. -/
theorem compile_normal {detection : Yaml.Value} {conditions : List Condition}
    (h : compile detection = .ok conditions) :
    (∃ entries parts, detection.entries? = some entries ∧ readEntries none entries = .ok parts ∧
      List.Forall₂ (ResolvedTo parts.selections) (conditionItems detection) conditions) ∧
    conditions ≠ [] ∧ ∀ condition ∈ conditions, condition.Normal := by
  unfold compile at h
  split at h
  · cases h
  · next entries hentries =>
    obtain ⟨parts, hparts, h⟩ := bind_eq_ok_iff.mp h
    obtain ⟨texts, htexts, h⟩ := bind_eq_ok_iff.mp h
    obtain ⟨last, normal⟩ := parts_of_readEntries hparts
    obtain ⟨value, hvalue, htexts, nonempty⟩ := conditionTexts_of_conditionEntry htexts
    have items : conditionItems detection = ItemKey.values value := by
      have found : conditionValue? entries = some value := by
        rw [← hvalue, last, Option.or_none]
      simp only [conditionItems, hentries, Option.bind_some, found]
    have resolved := resolvedTo_of_conditionTexts htexts h
    refine ⟨⟨entries, parts, hentries, hparts, items ▸ resolved⟩, ?_, ?_⟩
    · intro none
      rw [none, List.forall₂_nil_right_iff] at resolved
      exact nonempty resolved
    · exact normal_of_resolvedTo normal resolved

/-- A detection with items of a mapping, a list of keywords and two conditions. -/
def commandShell : Yaml.Value :=
  .mapping [
    (.text "image", .mapping [(.text "Image|endswith", .text "cmd.exe"),
      (.text "Parent|fieldref", .text "Image")]),
    (.text "words", .sequence [.text "who*", .number (.int 7)]),
    (.text "condition", .sequence [.text "image and not words", .text "all of them"])]

theorem compile_normal_commandShell : ∃ conditions, compile commandShell = .ok conditions ∧
    conditions.length = 2 ∧ ∀ condition ∈ conditions, condition.Normal := by
  have first : Expression.read "image and not words" =
      .ok (.binary .and (.name "image") (.not (.name "words"))) := by
    have cut : tokenize "image and not words".toList = some [.word "image".toList,
        .word "and".toList, .word "not".toList, .word "words".toList] := by
      decide
    have whole : readAll [.word "image".toList, .word "and".toList, .word "not".toList,
        .word "words".toList] = some (.binary .and (.name "image") (.not (.name "words"))) := by
      decide +kernel
    exact Expression.read_eq_ok_iff.mpr ⟨_, cut, whole, rfl⟩
  have second : Expression.read "all of them" = .ok (.quantified .all (.name "them")) := by
    have cut : tokenize "all of them".toList =
        some [.word "all".toList, .word "of".toList, .word "them".toList] := by
      decide
    have whole : readAll [.word "all".toList, .word "of".toList, .word "them".toList] =
        some (.quantified .all (.name "them")) := by
      decide +kernel
    exact Expression.read_eq_ok_iff.mpr ⟨_, cut, whole, rfl⟩
  obtain ⟨image, words, parts⟩ : ∃ image words, commandShell.entries?.map (readEntries none) =
      some (.ok ⟨some (.sequence [.text "image and not words", .text "all of them"]),
        [("image", image), ("words", words)]⟩) :=
    ⟨_, _, rfl⟩
  obtain ⟨entries, hentries, hparts⟩ := Option.map_eq_some_iff.mp parts
  have resolved : resolveAll [("image", image), ("words", words)]
      ["image and not words", "all of them"] =
      .ok [.and [image, .not words], .and [image, words]] := by
    rw [resolveAll, first, resolveAll, second]
    rfl
  have compiled : compile commandShell = .ok [.and [image, .not words], .and [image, words]] := by
    rw [compile, hentries]
    exact bind_eq_ok_iff.mpr ⟨_, hparts, bind_eq_ok_iff.mpr ⟨_, rfl, resolved⟩⟩
  exact ⟨_, compiled, rfl, (compile_normal compiled).2.2⟩

end Detection

end Rule

end DetectionQuery
