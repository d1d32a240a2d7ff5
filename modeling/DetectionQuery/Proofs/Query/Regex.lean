import DetectionQuery.Proofs.Query.Literal
import DetectionQuery.Query.Render

/-!
What a condition on the text of a field matches.

A text with markers becomes a regular expression that is itself written as a literal. Both layers
are read back here: `literalTexts` takes the literals of a fragment apart, and `Regex.elements`
reads an expression into characters that stand for themselves, the two anchors, and everything else,
its operators. Searching a subject for an expression is `Regex.Finds`; no operator takes part in it.

An expression written for a text has no operators (`Regex.elementsFrom_shielded`), so searching for
it is looking for the text where its shape allows it (`Regex.finds_elements_iff`).
-/

namespace DetectionQuery.Query

open DetectionQuery.Text

namespace Regex

/-! ### Expressions -/

/-- One element of a regular expression. -/
inductive Element where
  /-- A character that stands for itself. -/
  | literal (c : Char)
  /-- The start of the subject. -/
  | start
  /-- The end of the subject. -/
  | finish
  /-- A character with any other meaning. -/
  | operator (c : Char)
deriving DecidableEq, Repr

/-- The characters with a meaning where they are not escaped. -/
def special : List Char :=
  ['.', '?', '(', ')', '[', ']', '\x7b', '\x7d', '+', '*', '^', '$', '|', '\\']

/-- What a character that is not escaped stands for, at the start or at the end of an expression. -/
def unescaped (first last : Bool) (c : Char) : Element :=
  if first ∧ c = '^' then .start
  else if last ∧ c = '$' then .finish
  else if c ∈ special then .operator c
  else .literal c

/-- The elements of the rest of an expression; `first` says that nothing stands before it. -/
def elementsFrom (first : Bool) : List Char → List Element
  | [] => []
  | '\\' :: c :: rest => .literal c :: elementsFrom false rest
  | c :: rest => unescaped first rest.isEmpty c :: elementsFrom false rest

def elements (expression : List Char) : List Element :=
  elementsFrom true expression

/-- The elements match at one place of a subject, between what is before and what is after it. -/
inductive MatchesAt : List Element → List Char → List Char → Prop where
  | nil (before after : List Char) : MatchesAt [] before after
  | literal {c : Char} {rest : List Element} {before after : List Char} :
      MatchesAt rest (before ++ [c]) after → MatchesAt (.literal c :: rest) before (c :: after)
  | start {rest : List Element} {after : List Char} :
      MatchesAt rest [] after → MatchesAt (.start :: rest) [] after
  | finish {rest : List Element} {before : List Char} :
      MatchesAt rest before [] → MatchesAt (.finish :: rest) before []

/-- Searching: the elements match at some place of the subject. -/
def Finds (elements : List Element) (subject : List Char) : Prop :=
  ∃ before after, subject = before ++ after ∧ MatchesAt elements before after

end Regex

open Regex (Element)

/-- The elements of an expression for a text of a shape: its characters and the anchors. -/
def Shape.elements (text : List Char) : Shape → List Element
  | .contains => text.map .literal
  | .endsWith => text.map .literal ++ [.finish]
  | .startsWith => .start :: text.map .literal
  | .equals => .start :: (text.map .literal ++ [.finish])

/-- Whether a subject has the text where the shape asks for it. -/
def Shape.Admits (text subject : List Char) : Shape → Prop
  | .contains => text <:+: subject
  | .endsWith => text <:+ subject
  | .startsWith => text <+: subject
  | .equals => text = subject

namespace Regex

/-! ### Searching for a text -/

theorem matchesAt_literals_iff {text : List Char} {rest : List Element} {before after : List Char} :
    MatchesAt (text.map .literal ++ rest) before after ↔
      ∃ behind, after = text ++ behind ∧ MatchesAt rest (before ++ text) behind := by
  induction text generalizing before after with
  | nil => simp
  | cons c text ih =>
    rw [List.map_cons, List.cons_append]
    constructor
    · intro h
      cases h with
      | literal inner =>
        obtain ⟨behind, rfl, later⟩ := ih.mp inner
        exact ⟨behind, rfl, by simpa using later⟩
    · rintro ⟨behind, rfl, h⟩
      exact .literal (ih.mpr ⟨behind, rfl, by simpa using h⟩)

theorem matchesAt_text_iff {text before after : List Char} :
    MatchesAt (text.map .literal) before after ↔ text <+: after := by
  have h := @matchesAt_literals_iff text [] before after
  rw [List.append_nil] at h
  rw [h]
  constructor
  · rintro ⟨behind, rfl, -⟩
    exact List.prefix_append text behind
  · rintro ⟨behind, rfl⟩
    exact ⟨behind, rfl, .nil _ _⟩

theorem matchesAt_text_finish_iff {text before after : List Char} :
    MatchesAt (text.map .literal ++ [.finish]) before after ↔ after = text := by
  rw [matchesAt_literals_iff]
  constructor
  · rintro ⟨behind, rfl, h⟩
    cases h with
    | finish => exact List.append_nil text
  · rintro rfl
    exact ⟨[], (List.append_nil after).symm, .finish (.nil _ _)⟩

theorem finds_start_iff {rest : List Element} {subject : List Char} :
    Finds (.start :: rest) subject ↔ MatchesAt rest [] subject := by
  constructor
  · rintro ⟨before, after, rfl, h⟩
    cases h with
    | start h => exact h
  · intro h
    exact ⟨[], subject, rfl, .start h⟩

/-- Searching for the elements of a text finds the text where its shape allows it. -/
theorem finds_elements_iff (shape : Shape) (text subject : List Char) :
    Finds (shape.elements text) subject ↔ shape.Admits text subject := by
  cases shape with
  | contains =>
    simp only [Finds, Shape.elements, matchesAt_text_iff]
    constructor
    · rintro ⟨before, after, rfl, behind, rfl⟩
      exact ⟨before, behind, List.append_assoc before text behind⟩
    · rintro ⟨before, behind, rfl⟩
      exact ⟨before, text ++ behind, List.append_assoc before text behind, behind, rfl⟩
  | endsWith =>
    simp only [Finds, Shape.elements, matchesAt_text_finish_iff]
    constructor
    · rintro ⟨before, after, rfl, rfl⟩
      exact ⟨before, rfl⟩
    · rintro ⟨before, rfl⟩
      exact ⟨before, text, rfl, rfl⟩
  | startsWith => rw [Shape.elements, finds_start_iff, matchesAt_text_iff, Shape.Admits]
  | equals =>
    rw [Shape.elements, finds_start_iff, matchesAt_text_finish_iff, Shape.Admits, eq_comm]

/-! ### Reading the expression of a text -/

theorem elementsFrom_escape (first : Bool) (c : Char) (rest : List Char) :
    elementsFrom first ('\\' :: c :: rest) = .literal c :: elementsFrom false rest := rfl

theorem elementsFrom_unescaped (first : Bool) {c : Char} (h : c ≠ '\\') (rest : List Char) :
    elementsFrom first (c :: rest) =
      unescaped first rest.isEmpty c :: elementsFrom false rest := by
  rw [elementsFrom]
  rintro _ _ rfl
  exact absurd rfl h

theorem elementsFrom_plain (first : Bool) {c : Char} (h : c ∉ special) (rest : List Char) :
    elementsFrom first (c :: rest) = .literal c :: elementsFrom false rest := by
  have noEscape : c ≠ '\\' := by
    rintro rfl
    exact h (by decide)
  have noStart : c ≠ '^' := by
    rintro rfl
    exact h (by decide)
  have noFinish : c ≠ '$' := by
    rintro rfl
    exact h (by decide)
  simp [elementsFrom_unescaped first noEscape, unescaped, noStart, noFinish, h]

/-- A shielded character stands for itself, wherever it stands. -/
theorem elementsFrom_shieldedChar (first : Bool) (c : Char) (rest : List Char) :
    elementsFrom first (Dialect.mongoDB.shieldedChar c ++ rest) =
      .literal c :: elementsFrom false rest := by
  unfold Dialect.shieldedChar
  split
  · exact elementsFrom_escape first c rest
  · next noEscape =>
    split
    · next quote =>
      rw [quote]
      exact elementsFrom_plain first (by decide) rest
    · split
      · exact elementsFrom_escape first c rest
      · next ordinary =>
        refine elementsFrom_plain first (fun isSpecial => ?_) rest
        simp only [special, Dialect.mongoDB] at isSpecial ordinary noEscape
        simp_all

/-- A text with its special characters shielded is read as its characters. -/
theorem elementsFrom_shielded (first : Bool) (text rest : List Char) :
    elementsFrom first (text.flatMap Dialect.mongoDB.shieldedChar ++ rest) =
      text.map .literal ++ elementsFrom (first && text.isEmpty) rest := by
  induction text generalizing first with
  | nil => simp
  | cons c text ih =>
    rw [List.flatMap_cons, List.append_assoc, elementsFrom_shieldedChar, ih]
    simp

end Regex

namespace Dialect

/-! ### Reading fragments -/

theorem literalTexts_fieldText {field written : String} {body : List Char} (name : IsUnquoted field)
    (h : Decodes '"' '\\' written.toList body) :
    literalTexts '"' '\\' (Fragment.fieldText field written).toList = [field.toList, body] := by
  have layout : (Fragment.fieldText field written).toList =
      "\x7b ".toList ++ '"' :: (field.toList ++ '"' :: (": ".toList ++
        '"' :: (written.toList ++ '"' :: (" \x7d".toList ++ [])))) := by
    simp [Fragment.fieldText, braced, member, inQuotes]
  rw [layout, literalTexts_outside (by decide), (Decodes.self name).literalTexts_eq,
    literalTexts_outside (by decide), h.literalTexts_eq, literalTexts_outside (by decide),
    literalTexts]

theorem literalTexts_fieldRegex {field written : String} {body : List Char}
    (name : IsUnquoted field) (h : Decodes '"' '\\' written.toList body) :
    literalTexts '"' '\\' (Fragment.fieldRegex field mongoDB.regexToken written).toList =
      [field.toList, "$regex".toList, body] := by
  have layout : (Fragment.fieldRegex field mongoDB.regexToken written).toList =
      "\x7b ".toList ++ '"' :: (field.toList ++ '"' :: (": \x7b ".toList ++
        '"' :: ("$regex".toList ++ '"' :: (": ".toList ++
          '"' :: (written.toList ++ '"' :: (" \x7d \x7d".toList ++ [])))))) := by
    simp [Fragment.fieldRegex, braced, member, inQuotes, mongoDB]
  have unquoted : IsUnquoted "$regex" := by decide
  have token := Decodes.self unquoted
  rw [layout, literalTexts_outside (by decide), (Decodes.self name).literalTexts_eq,
    literalTexts_outside (by decide), token.literalTexts_eq, literalTexts_outside (by decide),
    h.literalTexts_eq, literalTexts_outside (by decide), literalTexts]

/-- The fragment searches a field for a text in the places of a shape: its last literal is an
expression that has no elements but the characters of the text and the anchors of the shape, and
that finds exactly the subjects that the shape admits. -/
def SearchesFor (fragment field : String) (shape : Shape) (text : List Char) : Prop :=
  ∃ expression,
    literalTexts '"' '\\' fragment.toList = [field.toList, "$regex".toList, expression] ∧
    Regex.elements expression = shape.elements text ∧
    ∀ subject, Regex.Finds (Regex.elements expression) subject ↔ shape.Admits text subject

section

variable {field : String} (name : IsUnquoted field)

include name

theorem searchesFor_fieldRegex {written : String} {shape : Shape} {text expression : List Char}
    (decoded : Decodes '"' '\\' written.toList expression)
    (elements : Regex.elements expression = shape.elements text) :
    SearchesFor (Fragment.fieldRegex field mongoDB.regexToken written) field shape text := by
  refine ⟨expression, literalTexts_fieldRegex name decoded, elements, fun subject => ?_⟩
  rw [elements]
  exact Regex.finds_elements_iff shape text subject

theorem searchesFor_contains (text : String) :
    SearchesFor (Fragment.contains field mongoDB.regexToken (mongoDB.escaped true text)) field
      .contains text.toList := by
  refine searchesFor_fieldRegex name (decodes_escaped_mongoDB_regex text) ?_
  have read := Regex.elementsFrom_shielded true text.toList []
  rwa [List.append_nil, Regex.elementsFrom, List.append_nil] at read

theorem searchesFor_startsWith (text : String) :
    SearchesFor (Fragment.startsWith field mongoDB.regexToken (mongoDB.escaped true text)) field
      .startsWith text.toList := by
  have anchor : Decodes '"' '\\' "^".toList ['^'] := Decodes.char (by decide) (by decide)
  have decoded := anchor.append (decodes_escaped_mongoDB_regex text)
  rw [← String.toList_append] at decoded
  refine searchesFor_fieldRegex name decoded ?_
  have read := Regex.elementsFrom_shielded false text.toList []
  rw [List.append_nil, Regex.elementsFrom, List.append_nil] at read
  rw [Regex.elements, List.singleton_append, Regex.elementsFrom_unescaped true (by decide), read]
  rfl

theorem searchesFor_endsWith (text : String) :
    SearchesFor (Fragment.endsWith field mongoDB.regexToken (mongoDB.escaped true text)) field
      .endsWith text.toList := by
  have anchor : Decodes '"' '\\' "$".toList ['$'] := Decodes.char (by decide) (by decide)
  have decoded := (decodes_escaped_mongoDB_regex text).append anchor
  rw [← String.toList_append] at decoded
  refine searchesFor_fieldRegex name decoded ?_
  rw [Regex.elements, Regex.elementsFrom_shielded, Regex.elementsFrom_unescaped _ (by decide)]
  cases text.toList <;> rfl

end

/-- **What a condition on the text of a field matches.** For a field name that is accepted, every
text can be written. Without markers its literal is the whole text; with markers, and for a regular
expression, it is an expression that finds the literal text where the markers ask for it. -/
theorem renderLeaf_text_admits {field written : String}
    (accepted : mongoDB.fieldName field = .ok written) :
    (∀ pattern : Pattern, ∃ fragment,
      mongoDB.renderLeaf (.equals (some field) (.text pattern)) = .ok fragment ∧
      (pattern.shape = .equals →
        literalTexts '"' '\\' fragment.toList = [field.toList, pattern.text.toList]) ∧
      (pattern.shape ≠ .equals →
        SearchesFor fragment field pattern.shape pattern.literal.toList)) ∧
    ∀ expression : String, ∃ fragment,
      mongoDB.renderLeaf (.equals (some field) (.regex expression)) = .ok fragment ∧
      SearchesFor fragment field .contains expression.toList := by
  obtain ⟨rfl, -, name⟩ := fieldName_mongoDB accepted
  constructor
  · intro pattern
    refine ⟨mongoDB.renderPattern written pattern, ?_, ?_, ?_⟩
    · rw [renderLeaf, renderEquals, accepted]
      rfl
    · intro shape
      have whole : pattern.literal = pattern.text := by rw [Pattern.literal, shape]
      rw [renderPattern, shape, ← whole]
      exact literalTexts_fieldText name (decodes_escaped_mongoDB pattern.literal)
    · intro marked
      unfold renderPattern
      cases shape : pattern.shape with
      | contains => exact searchesFor_contains name pattern.literal
      | endsWith => exact searchesFor_endsWith name pattern.literal
      | startsWith => exact searchesFor_startsWith name pattern.literal
      | equals => exact absurd shape marked
  · intro expression
    refine ⟨_, ?_, searchesFor_contains name expression⟩
    rw [renderLeaf, renderEquals, accepted]
    rfl

/-- Behind a backslash and a dollar of the text, the anchor is still an anchor. -/
theorem renderLeaf_text_admits_ending :
    mongoDB.fieldName "file name" = .ok "file name" ∧
    mongoDB.renderLeaf (.equals (some "file name") (.text (.ofText "*a.\\$"))) =
      .ok "\x7b \"file name\": \x7b \"$regex\": \"a\\\\.\\\\\\\\\\\\$$\" \x7d \x7d" ∧
    SearchesFor "\x7b \"file name\": \x7b \"$regex\": \"a\\\\.\\\\\\\\\\\\$$\" \x7d \x7d"
      "file name" .endsWith "a.\\$".toList := by
  have accepted : mongoDB.fieldName "file name" = .ok "file name" := rfl
  obtain ⟨fragment, rendered, -, searches⟩ :=
    (renderLeaf_text_admits accepted).1 (.ofText "*a.\\$")
  have same : mongoDB.renderLeaf (.equals (some "file name") (.text (.ofText "*a.\\$"))) =
      .ok "\x7b \"file name\": \x7b \"$regex\": \"a\\\\.\\\\\\\\\\\\$$\" \x7d \x7d" := by
    rfl
  rw [same] at rendered
  cases rendered
  exact ⟨accepted, same, searches (by decide)⟩

end Dialect

end DetectionQuery.Query
