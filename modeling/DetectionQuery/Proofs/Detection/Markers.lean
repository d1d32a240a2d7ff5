import DetectionQuery.Rule.Selection
import Mathlib.Data.List.Basic

/-!
Markers that modifiers put around a text.

A key with `contains`, `startswith` or `endswith` writes a `*` at the open ends of a text, and the
shape of the pattern is recovered from the ends of what was written (`Pattern.Reads`). A `*` that
the text itself has at the other end is taken for a marker as well. `Placement.reading` says what
comes out, and `ItemKey.leaf_of_placement` that a key with one of these modifiers comes to it.
-/

namespace DetectionQuery

open DetectionQuery.Query (Pattern Shape)

/-! ### Patterns with a marker -/

/-- The shape of a text that starts, or ends, with a marker. -/
def Query.Shape.ofEnds : (starts ends : Bool) → Shape
  | true, true => .contains
  | true, false => .endsWith
  | false, true => .startsWith
  | false, false => .equals

/-- The characters of a text without the markers of its shape. -/
def Query.Shape.unmarked : Shape → List Char → List Char
  | .contains, cs => Pattern.dropMarkerRight (cs.drop 1)
  | .endsWith, cs => cs.drop 1
  | .startsWith, cs => cs.dropLast
  | .equals, cs => cs

namespace Query.Pattern

/-- A text with a marker at one of its ends, its shape, and what stands between the markers. A
single character is the marker of both ends. -/
inductive Reads : List Char → Shape → List Char → Prop where
  | lone : Reads ['*'] .contains []
  | both (cs : List Char) : Reads ('*' :: (cs ++ ['*'])) .contains cs
  | front {cs : List Char} : cs ≠ [] → cs.getLast? ≠ some '*' → Reads ('*' :: cs) .endsWith cs
  | back {cs : List Char} : cs ≠ [] → cs.head? ≠ some '*' → Reads (cs ++ ['*']) .startsWith cs

namespace Reads

variable {chars literal : List Char} {shape : Shape}

theorem mem (h : Reads chars shape literal) : '*' ∈ chars := by
  cases h <;> simp

theorem ofEnds_eq (h : Reads chars shape literal) :
    Shape.ofEnds (chars.head? == some '*') (chars.getLast? == some '*') = shape := by
  cases h with
  | lone => rfl
  | both =>
    rw [← List.cons_append, List.getLast?_concat]
    rfl
  | front nonempty unmarked =>
    have ends : ('*' :: literal).getLast? = literal.getLast? := by
      rw [List.getLast?_cons, List.getLast?_eq_some_getLast nonempty, Option.getD_some]
    rw [ends, beq_false_of_ne unmarked]
    rfl
  | back nonempty unmarked =>
    rw [List.head?_append_of_ne_nil _ nonempty, beq_false_of_ne unmarked, List.getLast?_concat]
    rfl

theorem unmarked_eq (h : Reads chars shape literal) : shape.unmarked chars = literal := by
  cases h with
  | lone => rfl
  | both => simp [Shape.unmarked, dropMarkerRight]
  | front => simp [Shape.unmarked]
  | back => simp [Shape.unmarked]

end Reads

theorem toList_literal (pattern : Pattern) :
    pattern.literal.toList = pattern.shape.unmarked pattern.text.toList := by
  unfold Pattern.literal
  cases pattern.shape <;> simp [Shape.unmarked]

section

variable {text : String} {shape : Shape} {literal : List Char}

theorem shape_of_reads (h : Reads text.toList shape literal) : (ofText text).shape = shape := by
  have wildcards : (ofText text).wildcards = true := by simp [ofText, h.mem]
  rw [← h.ofEnds_eq, Pattern.shape, wildcards, if_pos rfl]
  rfl

theorem literal_of_reads (h : Reads text.toList shape literal) :
    (ofText text).literal.toList = literal := by
  rw [toList_literal, shape_of_reads h]
  exact h.unmarked_eq

end

end Query.Pattern

namespace Rule

open DetectionQuery.Query (Condition)

/-! ### Where a text has to stand -/

/-- Where a text has to stand in the value of a field. -/
inductive Placement where
  | contains
  | startsWith
  | endsWith
deriving DecidableEq, Repr

namespace Placement

/-- The modifier that asks for a placement. -/
def modifier : Placement → Modifier
  | .contains => .contains
  | .startsWith => .startsWith
  | .endsWith => .endsWith

/-- A text with markers at its open ends. -/
def mark : Placement → String → String
  | .contains, text => "*" ++ text ++ "*"
  | .startsWith, text => text ++ "*"
  | .endsWith, text => "*" ++ text

/-- The shape and the literal that a text comes to. A text without characters, or with a `*` at its
closed end, may stand anywhere, and the `*` is gone. -/
def reading : Placement → List Char → Shape × List Char
  | .contains, cs => (.contains, cs)
  | .startsWith, cs =>
    if cs ≠ [] ∧ cs.head? ≠ some '*' then (.startsWith, cs) else (.contains, cs.tail)
  | .endsWith, cs =>
    if cs ≠ [] ∧ cs.getLast? ≠ some '*' then (.endsWith, cs) else (.contains, cs.dropLast)

theorem reading_startsWith (cs : List Char) :
    (cs = [] ∧ reading .startsWith cs = (.contains, [])) ∨
    (∃ rest, cs = '*' :: rest ∧ reading .startsWith cs = (.contains, rest)) ∨
    ((cs ≠ [] ∧ cs.head? ≠ some '*') ∧ reading .startsWith cs = (.startsWith, cs)) := by
  by_cases closed : cs ≠ [] ∧ cs.head? ≠ some '*'
  · exact .inr (.inr ⟨closed, if_pos closed⟩)
  · cases cs with
    | nil => exact .inl ⟨rfl, rfl⟩
    | cons c rest =>
      obtain rfl : c = '*' := by simpa using closed
      refine .inr (.inl ⟨rest, rfl, ?_⟩)
      rw [reading, if_neg closed, List.tail_cons]

theorem reading_endsWith (cs : List Char) :
    (cs = [] ∧ reading .endsWith cs = (.contains, [])) ∨
    (∃ rest, cs = rest ++ ['*'] ∧ reading .endsWith cs = (.contains, rest)) ∨
    ((cs ≠ [] ∧ cs.getLast? ≠ some '*') ∧ reading .endsWith cs = (.endsWith, cs)) := by
  by_cases closed : cs ≠ [] ∧ cs.getLast? ≠ some '*'
  · exact .inr (.inr ⟨closed, if_pos closed⟩)
  · rcases List.eq_nil_or_concat cs with rfl | ⟨rest, c, rfl⟩
    · exact .inl ⟨rfl, rfl⟩
    · obtain rfl : c = '*' := by simpa using closed
      refine .inr (.inl ⟨rest, List.concat_eq_append, ?_⟩)
      rw [reading, if_neg closed, List.concat_eq_append, List.dropLast_concat]

/-- Marked texts are read as their placement says. -/
theorem reads_mark (placement : Placement) (text : String) :
    Pattern.Reads (placement.mark text).toList (placement.reading text.toList).1
      (placement.reading text.toList).2 := by
  cases placement with
  | contains =>
    rw [mark, String.toList_append, String.toList_append]
    exact .both text.toList
  | startsWith =>
    rw [mark, String.toList_append]
    rcases reading_startsWith text.toList with
      ⟨empty, same⟩ | ⟨rest, starred, same⟩ | ⟨closed, same⟩
    · rw [same, empty]
      exact .lone
    · rw [same, starred]
      exact .both rest
    · rw [same]
      exact .back closed.1 closed.2
  | endsWith =>
    rw [mark, String.toList_append]
    rcases reading_endsWith text.toList with
      ⟨empty, same⟩ | ⟨rest, starred, same⟩ | ⟨closed, same⟩
    · rw [same, empty]
      exact .lone
    · rw [same, starred]
      exact .both rest
    · rw [same]
      exact .front closed.1 closed.2

/-- Nothing of the text is lost but a `*` at its start or at its end. -/
theorem eq_append_of_reading (placement : Placement) (cs : List Char) :
    ∃ before after, cs = before ++ (placement.reading cs).2 ++ after ∧
      (before ++ after = [] ∨ before ++ after = ['*']) := by
  cases placement with
  | contains => exact ⟨[], [], by simp [reading], .inl rfl⟩
  | startsWith =>
    rcases reading_startsWith cs with ⟨rfl, same⟩ | ⟨rest, rfl, same⟩ | ⟨-, same⟩
    · exact ⟨[], [], by simp [same], .inl rfl⟩
    · exact ⟨['*'], [], by simp [same], .inr rfl⟩
    · exact ⟨[], [], by simp [same], .inl rfl⟩
  | endsWith =>
    rcases reading_endsWith cs with ⟨rfl, same⟩ | ⟨rest, rfl, same⟩ | ⟨-, same⟩
    · exact ⟨[], [], by simp [same], .inl rfl⟩
    · exact ⟨[], ['*'], by simp [same], .inr rfl⟩
    · exact ⟨[], [], by simp [same], .inl rfl⟩

end Placement

/-! ### Keys that place a text -/

/-- The text of a scalar; null has none. -/
inductive HasText : Yaml.Value → String → Prop where
  | text (s : String) : HasText (.text s) s
  | number (n : Yaml.Number) : HasText (.number n) n.toText
  | bool (b : Bool) : HasText (.bool b) (toString b)

theorem HasText.scalarText_eq {value : Yaml.Value} {text : String} (h : HasText value text) :
    scalarText value = .ok text := by
  cases h <;> rfl

namespace ItemKey

/-- The key asks for a placement, and apart from `all` and `cased` for nothing else. -/
structure Places (key : ItemKey) (placement : Placement) : Prop where
  mem : placement.modifier ∈ key.modifiers
  only : ∀ modifier ∈ key.modifiers,
    modifier = placement.modifier ∨ modifier = .all ∨ modifier = .cased

namespace Places

variable {key : ItemKey} {placement : Placement}

theorem has_eq (h : key.Places placement) {modifier : Modifier}
    (counts : modifier ≠ .all ∧ modifier ≠ .cased) :
    key.has modifier = decide (modifier = placement.modifier) := by
  rw [Bool.eq_iff_iff, has, List.contains_iff_mem, decide_eq_true_eq]
  constructor
  · intro mem
    rcases h.only modifier mem with same | all | cased
    · exact same
    · exact absurd all counts.1
    · exact absurd cased counts.2
  · rintro rfl
    exact h.mem

theorem comparison?_eq_none (h : key.Places placement) : key.comparison? = none := by
  rw [comparison?, List.findSome?_eq_none_iff]
  intro modifier mem
  rcases h.only modifier mem with rfl | rfl | rfl
  · cases placement <;> rfl
  · rfl
  · rfl

theorem marked_eq (h : key.Places placement) (text : String) :
    key.marked text = placement.mark text := by
  rw [marked, h.has_eq (by decide), h.has_eq (by decide), h.has_eq (by decide)]
  cases placement <;> rfl

theorem matchesText_eq_true (h : key.Places placement) : key.matchesText = true := by
  rw [matchesText, h.has_eq (by decide), h.has_eq (by decide), h.has_eq (by decide)]
  cases placement <;> rfl

/-- No modifier replaces the comparison with the value. -/
theorem leaf_eq_plainLeaf (h : key.Places placement) (value : Yaml.Value) :
    key.leaf value = key.plainLeaf value := by
  rw [leaf, h.has_eq (by decide), h.comparison?_eq_none, h.has_eq (by decide),
    h.has_eq (by decide)]
  cases placement <;> rfl

/-- The value becomes a pattern with the markers of the placement. -/
theorem leaf_eq (h : key.Places placement) {value : Yaml.Value} {text : String}
    (scalar : HasText value text) :
    key.leaf value = .ok (.leaf (.equals key.field (.text (.ofText (placement.mark text))))) := by
  have written : key.pattern value = .ok (.ofText (placement.mark text)) := by
    rw [pattern, scalar.scalarText_eq, ← h.marked_eq text]
    rfl
  have asText : (do return key.equals (.text (← key.pattern value))) =
      (.ok (.leaf (.equals key.field (.text (.ofText (placement.mark text))))) :
        Except Error Condition) := by
    rw [written]
    rfl
  rw [h.leaf_eq_plainLeaf]
  cases scalar with
  | text s => exact asText
  | number n =>
    rw [plainLeaf, if_pos h.matchesText_eq_true]
    exact asText
  | bool b =>
    rw [plainLeaf, if_pos h.matchesText_eq_true]
    exact asText

end Places

/-- **Modifiers and markers agree.** A key that asks for a placement makes every scalar a text, and
the shape and the literal of the text are those of the placement: with `contains` always the whole
text, and else the whole text unless it is empty or has a `*` at its closed end. The literal is the
text, up to one `*` at one end. -/
theorem leaf_of_placement {key : ItemKey} {placement : Placement} (h : key.Places placement)
    {value : Yaml.Value} {text : String} (scalar : HasText value text) :
    ∃ pattern, key.leaf value = .ok (.leaf (.equals key.field (.text pattern))) ∧
      (pattern.shape, pattern.literal.toList) = placement.reading text.toList ∧
      ∃ before after, text.toList = before ++ pattern.literal.toList ++ after ∧
        (before ++ after = [] ∨ before ++ after = ['*']) := by
  have reads := placement.reads_mark text
  have literal := Pattern.literal_of_reads reads
  refine ⟨.ofText (placement.mark text), h.leaf_eq scalar, ?_, ?_⟩
  · rw [Pattern.shape_of_reads reads, literal]
  · rw [literal]
    exact placement.eq_append_of_reading text.toList

/-- A text that starts with a `*` may stand anywhere, although the key asks for the start. -/
theorem leaf_of_placement_starred : ∃ pattern,
    leaf ⟨some "Image", [.all, .startsWith, .cased]⟩ (.text "*cmd*") =
      .ok (.leaf (.equals (some "Image") (.text pattern))) ∧
    pattern.shape = .contains ∧ pattern.literal.toList = ['c', 'm', 'd', '*'] := by
  have places : Places ⟨some "Image", [.all, .startsWith, .cased]⟩ .startsWith :=
    ⟨by simp [Placement.modifier], by simp [Placement.modifier]⟩
  obtain ⟨pattern, built, reading, -⟩ := leaf_of_placement places (.text "*cmd*")
  have starred : Placement.reading .startsWith "*cmd*".toList =
      (.contains, ['c', 'm', 'd', '*']) := rfl
  rw [starred, Prod.mk.injEq] at reading
  exact ⟨pattern, built, reading⟩

end ItemKey

end Rule

end DetectionQuery
