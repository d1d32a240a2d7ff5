import DetectionQuery.Proofs.Outcome
import DetectionQuery.Proofs.Query.Condition
import DetectionQuery.Proofs.Query.Document
import DetectionQuery.Query.Render

/-!
A condition and the query it is written as mean the same.

The query of a condition whose leaves are legible is read back as a document, and under every
assignment of truth values to fragments the document holds exactly when the condition does, each of
its leaves having the truth of its own fragment (`render_reads_back`). A negation of alternatives
takes another way through the text than any other negation, and both mean the same.
-/

namespace DetectionQuery.Query

open DetectionQuery.Text Document

/-! ### Legible leaves -/

/-- Whether a number is an integer. -/
def Number.IsInt : Number → Prop
  | .int _ => True
  | .float _ => False

/-- Whether a name consists of letters, digits, low lines and points. -/
def IsBareName (name : String) : Prop :=
  ∀ c ∈ name.toList, c.isAlphanum = true ∨ c = '_' ∨ c = '.'

instance (name : String) : Decidable (IsBareName name) :=
  List.decidableBAll _ name.toList

/-- Leaves whose query keeps user text inside its quotes. Texts, expressions and field references
are escaped or checked wherever they are written; the values of keywords and lists have to be plain,
numbers whole, and names bare where they are written without quotes. -/
def Leaf.Legible : Leaf → Prop
  | .equals none value => value.Plain
  | .equals (some _) (.list values) => ∀ value ∈ values, value.Plain
  | .equals (some _) (.number number) => number.IsInt
  | .equals (some _) _ => True
  | .compare _ _ number => number.IsInt
  | .isNull field => IsBareName field
  | .fieldExists field _ => IsBareName field

/-! ### Fragments of leaves -/

/-- The text starts with something other than a blank or a list. -/
def NoList (value : String) : Prop :=
  ∃ c rest, value.toList = c :: rest ∧ c.isWhitespace = false ∧ c ≠ '['

theorem noList_inQuotes (text : String) : NoList (inQuotes text) :=
  ⟨'"', text.toList ++ ['"'], by simp [inQuotes], by decide, by decide⟩

theorem noList_braced (body : String) : NoList (braced body) :=
  ⟨'\x7b', ' ' :: (body.toList ++ [' ', '\x7d']), by simp [braced], by decide, by decide⟩

theorem noList_boolToken (value : Bool) : NoList (Dialect.mongoDB.boolToken value) := by
  cases value with
  | false => exact ⟨'f', ['a', 'l', 's', 'e'], by decide, by decide, by decide⟩
  | true => exact ⟨'t', ['r', 'u', 'e'], by decide, by decide, by decide⟩

theorem noList_toText_int (value : Int) : NoList (Number.toText (.int value)) := by
  cases chars : (Number.toText (.int value)).toList with
  | nil => exact absurd (String.toList_eq_nil_iff.mp chars) (toText_int_ne_empty value)
  | cons c rest =>
    have mem : c ∈ (Number.toText (.int value)).toList := by simp [chars]
    refine ⟨c, rest, chars, ?_⟩
    rcases mem_toText_int mem with digit | rfl
    · exact ⟨isWhitespace_of_isAlphanum digit, (inert_iff.mp (inert_of_isAlphanum digit)).2.2.1⟩
    · decide

/-- An object with a quoted key and a value that is no list is read as a fragment. -/
theorem readsAs_member {key value : String} (hkey : IsUnquoted key)
    (hvalue : Passes .outside value) (noList : NoList value) :
    ReadsAs (braced (member (inQuotes key) value))
      (.fragment (braced (member (inQuotes key) value))) := by
  refine ReadsAs.fragment (hkey.passes.inQuotes.member hvalue) fun rest => ?_
  obtain ⟨c, tail, chars, blank, bracket⟩ := noList
  have text : (braced (member (inQuotes key) value)).toList ++ rest =
      '\x7b' :: ' ' :: '"' :: (key.toList ++ '"' :: ':' :: ' ' :: c ::
        (tail ++ ' ' :: '\x7d' :: rest)) := by
    simp [braced, member, inQuotes, chars]
  rw [text]
  exact groupStart?_quoted hkey blank bracket _

theorem inert_of_isBareName {name : String} (h : IsBareName name) : ∀ c ∈ name.toList, Inert c := by
  intro c mem
  rcases h c mem with alphanum | rfl | rfl
  · exact inert_of_isAlphanum alphanum
  · decide
  · decide

/-- An object with a bare key is read as a fragment. -/
theorem readsAs_fieldExists {name flag : String} (empty : name ≠ "") (bare : IsBareName name)
    (hflag : Passes .outside flag) :
    ReadsAs (Fragment.fieldExists name flag) (.fragment (Fragment.fieldExists name flag)) := by
  have key : Passes .outside (inQuotes "$exists") := by decide
  have hname := Passes.of_inert (inert_of_isBareName bare)
  refine ReadsAs.fragment (hname.member (key.member hflag).braced) fun rest => ?_
  cases chars : name.toList with
  | nil => exact absurd (String.toList_eq_nil_iff.mp chars) empty
  | cons c tail =>
    have mem : c ∈ name.toList := by simp [chars]
    have blank : c.isWhitespace = false := by
      rcases bare c mem with alphanum | rfl | rfl
      · exact isWhitespace_of_isAlphanum alphanum
      · decide
      · decide
    have text (body : String) : (braced (member name body)).toList ++ rest =
        '\x7b' :: ' ' :: c :: (tail ++ ':' :: ' ' :: (body.toList ++ ' ' :: '\x7d' :: rest)) := by
      simp [braced, member, chars]
    rw [text]
    exact groupStart?_bare blank (inert_of_isBareName bare c mem).1 _

namespace Dialect

theorem readsAs_renderPattern {field : String} (hfield : IsUnquoted field) (pattern : Pattern) :
    ReadsAs (mongoDB.renderPattern field pattern)
      (.fragment (mongoDB.renderPattern field pattern)) := by
  have token : Passes .outside (inQuotes mongoDB.regexToken) := by decide
  have regex {expression : String} (h : Passes .quoted expression) :
      ReadsAs (Fragment.fieldRegex field mongoDB.regexToken expression)
        (.fragment (Fragment.fieldRegex field mongoDB.regexToken expression)) :=
    readsAs_member hfield (token.member h.inQuotes).braced (noList_braced _)
  have caret : Passes .quoted "^" := by decide
  have dollar : Passes .quoted "$" := by decide
  unfold renderPattern
  cases pattern.shape with
  | contains => exact regex (passes_escaped true _)
  | startsWith => exact regex (caret.append (passes_escaped true _))
  | endsWith => exact regex ((passes_escaped true _).append dollar)
  | equals => exact readsAs_member hfield (passes_escaped false _).inQuotes (noList_inQuotes _)

theorem readsAs_renderEquals {field : String} {value : Value} {text : String}
    (legible : (Leaf.equals (some field) value).Legible)
    (h : mongoDB.renderEquals field value = .ok text) : ReadsAs text (.fragment text) := by
  unfold renderEquals at h
  obtain ⟨name, hname, written⟩ := bind_eq_ok_iff.mp h
  obtain ⟨rfl, -, unquoted⟩ := fieldName_mongoDB hname
  cases value with
  | text pattern =>
    cases written
    exact readsAs_renderPattern unquoted pattern
  | bool value =>
    cases written
    exact readsAs_member unquoted (passes_boolToken value) (noList_boolToken value)
  | number number =>
    cases number with
    | int value =>
      cases written
      exact readsAs_member unquoted (passes_toText_int value) (noList_toText_int value)
    | float value => exact legible.elim
  | regex expression =>
    cases written
    have token : Passes .outside (inQuotes mongoDB.regexToken) := by decide
    exact readsAs_member unquoted (token.member (passes_escaped true _).inQuotes).braced
      (noList_braced _)
  | list values =>
    cases written
    have token : Passes .outside (inQuotes mongoDB.inToken) := by decide
    have hvalues := passes_literals fun value mem => (legible value mem).passes_literal
    exact readsAs_member unquoted (token.member hvalues).braced (noList_braced _)
  | expansion alternatives =>
    obtain ⟨first, -, written⟩ := bind_eq_ok_iff.mp written
    cases written
    exact readsAs_renderPattern unquoted first
  | fieldRef other =>
    obtain ⟨otherName, hother, whole⟩ := bind_eq_ok_iff.mp written
    obtain ⟨rfl, -, otherUnquoted⟩ := fieldName_mongoDB hother
    cases whole
    have key : Passes .outside (inQuotes "$eq") := by decide
    have dollar : Passes .quoted "$" := by decide
    have separator : Passes .outside ", " := by decide
    have fields := ((dollar.append unquoted.passes).inQuotes.append separator).append
      (dollar.append otherUnquoted.passes).inQuotes
    refine readsAs_member (by decide) (key.member ?_).braced (noList_braced _)
    simpa [String.append_assoc] using fields.squared

/-- The query of a legible leaf is read as a fragment. -/
theorem readsAs_renderLeaf {leaf : Leaf} {text : String} (legible : leaf.Legible)
    (h : mongoDB.renderLeaf leaf = .ok text) : ReadsAs text (.fragment text) := by
  match leaf with
  | .equals none value =>
    cases h
    have key : Passes .outside (inQuotes "$search") := by decide
    exact readsAs_member (by decide) (key.member legible.passes_literal).braced (noList_braced _)
  | .equals (some field) value => exact readsAs_renderEquals legible h
  | .compare field comparison (.int value) =>
    obtain ⟨name, hname, written⟩ := bind_eq_ok_iff.mp h
    obtain ⟨rfl, -, unquoted⟩ := fieldName_mongoDB hname
    cases written
    have token : Passes .outside (mongoDB.comparisonToken comparison) := by
      cases comparison <;> decide
    exact readsAs_member unquoted (token.member (passes_toText_int value)).braced (noList_braced _)
  | .compare field comparison (.float value) => exact legible.elim
  | .isNull field =>
    obtain ⟨name, hname, written⟩ := bind_eq_ok_iff.mp h
    obtain ⟨rfl, empty, -⟩ := fieldName_mongoDB hname
    cases written
    exact readsAs_fieldExists empty legible (by decide)
  | .fieldExists field expected =>
    obtain ⟨name, hname, written⟩ := bind_eq_ok_iff.mp h
    obtain ⟨rfl, empty, -⟩ := fieldName_mongoDB hname
    cases written
    exact readsAs_fieldExists empty legible (passes_boolToken expected)

theorem renderAll_eq_ok_iff {dialect : Dialect} {children : List Condition} {texts : List String} :
    dialect.renderAll children = .ok texts ↔
      List.Forall₂ (fun child text => dialect.render child = .ok text) children texts := by
  induction children generalizing texts with
  | nil =>
    rw [renderAll, List.forall₂_nil_left_iff]
    constructor
    · intro h
      cases h
      rfl
    · rintro rfl
      rfl
  | cons child rest ih =>
    rw [renderAll, List.forall₂_cons_left_iff]
    constructor
    · intro h
      obtain ⟨text, hchild, h⟩ := bind_eq_ok_iff.mp h
      obtain ⟨more, hrest, h⟩ := bind_eq_ok_iff.mp h
      cases h
      exact ⟨text, more, hchild, ih.mp hrest, rfl⟩
    · rintro ⟨text, more, hchild, hrest, rfl⟩
      exact bind_eq_ok_iff.mpr ⟨text, hchild, bind_eq_ok_iff.mpr ⟨more, ih.mpr hrest, rfl⟩⟩

/-! ### Conditions -/

/-- The truth of a leaf is that of the fragment it is written as. -/
def leafTruth (dialect : Dialect) (assign : String → Bool) (leaf : Leaf) : Bool :=
  match dialect.renderLeaf leaf with
  | .ok text => assign text
  | .error _ => false

/-- The text is read as a document with the truth of the condition. -/
def Means (text : String) (condition : Condition) : Prop :=
  ∃ document, ReadsAs text document ∧
    ∀ assign, document.holds assign = condition.holds (mongoDB.leafTruth assign)

/-- Members that are each read with their meaning. -/
theorem documents_of_means {children : List Condition} {texts : List String}
    (h : List.Forall₂ (fun child text => Means text child) children texts) :
    ∃ documents, List.Forall₂ ReadsAs texts documents ∧
      ∀ assign, truths assign documents =
        children.map (Condition.holds (mongoDB.leafTruth assign)) := by
  induction h with
  | nil => exact ⟨[], .nil, fun _ => rfl⟩
  | cons head _ ih =>
    obtain ⟨document, reads, truth⟩ := head
    obtain ⟨documents, readAll, truthAll⟩ := ih
    refine ⟨document :: documents, .cons reads readAll, fun assign => ?_⟩
    rw [truths, truth, truthAll, List.map_cons]

/-- A group is read with the truth that its operator gives to its members. -/
theorem means_group (operator : Operator) {children : List Condition} {texts : List String}
    {condition : Condition}
    (h : List.Forall₂ (fun child text => Means text child) children texts)
    (truth : ∀ leaves,
      condition.holds leaves = operator.holds (children.map (Condition.holds leaves))) :
    Means (Fragment.group operator.token texts ", ") condition := by
  obtain ⟨documents, reads, truthAll⟩ := documents_of_means h
  refine ⟨.group operator documents, ReadsAs.group operator reads, fun assign => ?_⟩
  rw [Document.holds, truthAll, truth]

/-- A group of members means its condition if each member means its own. -/
theorem means_renderAll (operator : Operator) {children : List Condition} {condition : Condition}
    {query : String}
    (members : ∀ child ∈ children, (∀ leaf ∈ child.leaves, leaf.Legible) →
      ∀ text, mongoDB.render child = .ok text → Means text child)
    (legible : ∀ leaf ∈ Condition.leavesAll children, leaf.Legible)
    (written : (do return Fragment.group operator.token (← mongoDB.renderAll children) ", ") =
      .ok query)
    (truth : ∀ leaves,
      condition.holds leaves = operator.holds (children.map (Condition.holds leaves))) :
    Means query condition := by
  obtain ⟨texts, hchildren, whole⟩ := bind_eq_ok_iff.mp written
  cases whole
  have each : ∀ child ∈ children, ∀ text, mongoDB.render child = .ok text → Means text child := by
    intro child mem
    refine members child mem fun leaf hleaf => legible leaf ?_
    exact Condition.mem_leavesAll.mpr ⟨child, mem, hleaf⟩
  have both := (List.forall₂_and_left children texts).mpr ⟨each, renderAll_eq_ok_iff.mp hchildren⟩
  exact means_group operator (both.imp fun child text means => means.1 text means.2) truth

/-- The query of a condition with legible leaves means the condition. -/
theorem means_render {condition : Condition} (legible : ∀ leaf ∈ condition.leaves, leaf.Legible)
    (query : String) (written : mongoDB.render condition = .ok query) : Means query condition := by
  induction condition using Condition.induction generalizing query with
  | and children ih =>
    rw [Condition.leaves] at legible
    refine means_renderAll .all ih legible written fun leaves => ?_
    rw [Condition.holds_and, Operator.holds, List.all_map, Function.id_comp]
  | or children ih =>
    rw [Condition.leaves] at legible
    refine means_renderAll .any ih legible written fun leaves => ?_
    rw [Condition.holds_or, Operator.holds, List.any_map, Function.id_comp]
  | notOr alternatives ih =>
    rw [Condition.leaves, Condition.leaves] at legible
    refine means_renderAll .none ih legible written fun leaves => ?_
    rw [Condition.holds_not, Condition.holds_or, Operator.holds, List.any_map, Function.id_comp]
  | not child other ih =>
    rw [Condition.leaves] at legible
    rw [render] at written
    · obtain ⟨text, hchild, whole⟩ := bind_eq_ok_iff.mp written
      cases whole
      refine means_group .none (.cons (ih legible text hchild) .nil) fun leaves => ?_
      simp [Operator.holds]
    · exact fun alternatives same => other alternatives same
  | leaf leaf =>
    have own := legible leaf (by simp [Condition.leaves])
    refine ⟨.fragment query, readsAs_renderLeaf own written, ?_⟩
    intro assign
    have text : mongoDB.renderLeaf leaf = .ok query := written
    rw [Document.holds, Condition.holds_leaf, leafTruth, text]

end Dialect

/-- **Queries mean their conditions.** The query of a condition with legible leaves is read as a
document that ends where the query does, whatever follows it. Under every assignment of truth values
to fragments the document holds exactly when the condition holds with each leaf taking the truth of
its own fragment. -/
theorem render_reads_back {condition : Condition} {query : String}
    (legible : ∀ leaf ∈ condition.leaves, leaf.Legible)
    (written : Dialect.mongoDB.render condition = .ok query) :
    ∃ document, (∀ rest, Document.read (query.toList ++ rest) = some (document, rest)) ∧
      ∀ assign, document.holds assign = condition.holds (Dialect.mongoDB.leafTruth assign) := by
  obtain ⟨document, reads, truth⟩ := Dialect.means_render legible query written
  refine ⟨document, fun rest => reads.reads _ rest ?_, truth⟩
  rw [List.length_append, String.length_toList]
  exact Nat.le_add_right _ _

/-- A negated alternative between texts that hold quotes, brackets and a group operator. -/
theorem render_reads_back_nested : ∃ condition query,
    (∀ leaf ∈ condition.leaves, leaf.Legible) ∧ Dialect.mongoDB.render condition = .ok query ∧
    ∃ document, (∀ rest, Document.read (query.toList ++ rest) = some (document, rest)) ∧
      ∀ assign, document.holds assign = condition.holds (Dialect.mongoDB.leafTruth assign) := by
  have legible : ∀ leaf ∈ (Condition.and [
      .not (.or [.fieldEquals "$and" (.text (.ofText "*\"], [\\")), .keyword (.list [.bool true])]),
      .not (.leaf (.isNull "a.b"))]).leaves, leaf.Legible := by
    intro leaf mem
    simp only [Condition.leaves, Condition.leavesAll, Condition.fieldEquals, Condition.keyword,
      List.append_nil, List.cons_append, List.nil_append, List.mem_cons, List.not_mem_nil,
      or_false] at mem
    rcases mem with rfl | rfl | rfl
    · trivial
    · exact .list fun value mem => by
        rw [List.mem_singleton.mp mem]
        exact .bool true
    · have bare : IsBareName "a.b" := by decide
      exact bare
  exact ⟨_, _, legible, rfl, render_reads_back legible rfl⟩

end DetectionQuery.Query
