import DetectionQuery.Proofs.Text.Literal
import DetectionQuery.Query.Literal
import Mathlib.Data.List.Basic

/-!
Literals and names of a query, read back.

`Dialect.decodes_escaped` and `Dialect.decodes_escaped_regex` say what a reader of literals makes of
an escaped text: the text itself, or the text with each special character shielded once. In the
dialect of MongoDB what is written between quotes stays there (`passes_escaped`), an accepted field
name is written as it is (`fieldName_mongoDB`), and a plain value is written without loose brackets
or quotes (`Value.Plain.passes_literal`).
-/

namespace DetectionQuery.Query

open DetectionQuery.Text

namespace Dialect

variable {dialect : Dialect}

/-! ### Escaped texts -/

/-- One character of a regular expression that matches it literally. -/
def shieldedChar (dialect : Dialect) (c : Char) : List Char :=
  if c = dialect.escape then [dialect.escape, c]
  else if c = dialect.quote then [c]
  else if dialect.regexSpecial.toList.contains c then [dialect.escape, c]
  else [c]

theorem decodes_escapedChar (h : dialect.escape ≠ dialect.quote) (c : Char) :
    Decodes dialect.quote dialect.escape (dialect.escapedChar false c) [c] := by
  unfold escapedChar
  split
  · next escape =>
    rw [escape]
    exact Decodes.escaped h dialect.escape
  · next escape =>
    split
    · exact Decodes.escaped h c
    · next quote => simpa using Decodes.char quote escape

theorem decodes_escapedChar_regex (h : dialect.escape ≠ dialect.quote) (c : Char) :
    Decodes dialect.quote dialect.escape (dialect.escapedChar true c)
      (dialect.shieldedChar c) := by
  have escapeTwice := Decodes.escaped h dialect.escape
  unfold escapedChar shieldedChar
  split
  · next escape =>
    rw [escape]
    exact escapeTwice.append escapeTwice
  · next escape =>
    split
    · exact Decodes.escaped h c
    · next quote =>
      have char := Decodes.char quote escape
      rw [Bool.true_and]
      split
      · exact escapeTwice.append char
      · exact char

/-- Between quotes, an escaped text reads as the text. -/
theorem decodes_escaped (h : dialect.escape ≠ dialect.quote) (text : String) :
    Decodes dialect.quote dialect.escape (dialect.escaped false text).toList text.toList := by
  have chars : ∀ c ∈ text.toList,
      Decodes dialect.quote dialect.escape (dialect.escapedChar false c) [c] :=
    fun c _ => decodes_escapedChar h c
  simpa [escaped] using Decodes.flatMap chars

/-- Between quotes, a text escaped for a regular expression reads as the text with its special
characters shielded. -/
theorem decodes_escaped_regex (h : dialect.escape ≠ dialect.quote) (text : String) :
    Decodes dialect.quote dialect.escape (dialect.escaped true text).toList
      (text.toList.flatMap dialect.shieldedChar) := by
  have chars : ∀ c ∈ text.toList,
      Decodes dialect.quote dialect.escape (dialect.escapedChar true c) (dialect.shieldedChar c) :=
    fun c _ => decodes_escapedChar_regex h c
  simpa [escaped] using Decodes.flatMap chars

theorem decodes_escaped_mongoDB (text : String) :
    Decodes '"' '\\' (mongoDB.escaped false text).toList text.toList :=
  have distinct : mongoDB.escape ≠ mongoDB.quote := by decide
  decodes_escaped distinct text

theorem decodes_escaped_mongoDB_regex (text : String) :
    Decodes '"' '\\' (mongoDB.escaped true text).toList
      (text.toList.flatMap mongoDB.shieldedChar) :=
  have distinct : mongoDB.escape ≠ mongoDB.quote := by decide
  decodes_escaped_regex distinct text

/-- An escaped text does not leave the quotes it is put between. -/
theorem passes_escaped (inRegex : Bool) (text : String) :
    Passes .quoted (mongoDB.escaped inRegex text) := by
  cases inRegex with
  | false => exact (decodes_escaped_mongoDB text).passes
  | true => exact (decodes_escaped_mongoDB_regex text).passes

/-! ### Field names -/

/-- The field names that are accepted are written as they are. -/
theorem fieldName_mongoDB {name written : String} (h : mongoDB.fieldName name = .ok written) :
    written = name ∧ name ≠ "" ∧ IsUnquoted name := by
  unfold fieldName at h
  split at h
  · cases h
  · next bad =>
    simp only [isBadName, mongoDB, Bool.or_eq_true, List.contains_iff_mem, not_or,
      String.isEmpty_iff] at bad
    obtain ⟨⟨empty, quote⟩, backslash⟩ := bad
    have unquoted : IsUnquoted name := by
      intro c mem
      constructor
      · rintro rfl
        exact quote mem
      · rintro rfl
        exact backslash mem
    refine ⟨?_, empty, unquoted⟩
    split at h
    · cases h
      rfl
    · cases h
      simp [mongoDB]

end Dialect

/-! ### Plain values -/

/-- Values whose written form holds no brackets and quotes but its own: truth values, integers,
texts without quotes and backslashes, and lists of such values. -/
inductive Value.Plain : Value → Prop where
  | bool (value : Bool) : Plain (.bool value)
  | int (value : Int) : Plain (.number (.int value))
  | text {pattern : Pattern} : IsUnquoted pattern.text → Plain (.text pattern)
  | list {values : List Value} : (∀ value ∈ values, Plain value) → Plain (.list values)
  | expansion {values : List Value} : (∀ value ∈ values, Plain value) → Plain (.expansion values)

theorem inert_iff {c : Char} :
    Inert c ↔ c ≠ '"' ∧ c ≠ '\x7b' ∧ c ≠ '[' ∧ c ≠ '\x7d' ∧ c ≠ ']' := by
  unfold Inert Bracket.opened? Bracket.closed?
  constructor
  · rintro ⟨quote, opened, closed⟩
    refine ⟨quote, ?_, ?_, ?_, ?_⟩ <;> rintro rfl <;> simp_all
  · rintro ⟨quote, openBrace, openSquare, closeBrace, closeSquare⟩
    refine ⟨quote, ?_, ?_⟩ <;> split <;> simp_all

theorem inert_of_isAlphanum {c : Char} (h : c.isAlphanum = true) : Inert c := by
  rw [inert_iff]
  refine ⟨?_, ?_, ?_, ?_, ?_⟩ <;> rintro rfl <;> revert h <;> decide

theorem isWhitespace_of_isAlphanum {c : Char} (h : c.isAlphanum = true) :
    c.isWhitespace = false := by
  by_contra blank
  simp only [Char.isWhitespace, Bool.or_eq_true, decide_eq_true_eq, Bool.not_eq_false] at blank
  rcases blank with ((rfl | rfl) | rfl) | rfl <;> revert h <;> decide

/-- The digits of an integer, with its sign. -/
theorem mem_toText_int {value : Int} {c : Char} (h : c ∈ (Number.toText (.int value)).toList) :
    c.isAlphanum = true ∨ c = '-' := by
  have digit {n : Nat} (mem : c ∈ n.repr.toList) : c.isAlphanum = true := by
    rw [Nat.toList_repr] at mem
    have isDigit := Nat.isDigit_of_mem_toDigits (by decide) (by decide) mem
    simp [Char.isAlphanum, isDigit]
  cases value with
  | ofNat n => exact Or.inl (digit h)
  | negSucc n =>
    change c ∈ ("-" ++ n.succ.repr).toList at h
    rw [String.toList_append, List.mem_append] at h
    rcases h with sign | rest
    · exact Or.inr (by simpa using sign)
    · exact Or.inl (digit rest)

theorem toText_int_ne_empty (value : Int) : Number.toText (.int value) ≠ "" := by
  intro empty
  -- The digits of a number are never empty, with or without a sign before them.
  cases value with
  | ofNat n =>
    have chars : n.repr.toList = [] := String.toList_eq_nil_iff.mpr empty
    rw [Nat.toList_repr] at chars
    exact absurd chars Nat.toDigits_ne_nil
  | negSucc n =>
    have chars : ("-" ++ n.succ.repr).toList = [] := String.toList_eq_nil_iff.mpr empty
    simp at chars

theorem passes_toText_int (value : Int) : Passes .outside (Number.toText (.int value)) := by
  refine Passes.of_inert fun c mem => ?_
  rcases mem_toText_int mem with digit | rfl
  · exact inert_of_isAlphanum digit
  · decide

namespace Dialect

theorem passes_boolToken (value : Bool) : Passes .outside (mongoDB.boolToken value) := by
  cases value <;> decide

theorem textLiteral_of_isUnquoted {text : String} (h : IsUnquoted text) :
    mongoDB.textLiteral text = inQuotes text := by
  have notQuoted : mongoDB.isQuoted text = false := by
    have head : text.toList.head? ≠ some '"' := fun head =>
      (h '"' (List.mem_of_mem_head? head)).1 rfl
    simp [isQuoted, mongoDB, head]
  have body :
      text.toList.flatMap (fun c => if c = mongoDB.quote then [mongoDB.escape, c] else [c]) =
        text.toList := by
    have chars : ∀ c ∈ text.toList,
        (if c = mongoDB.quote then [mongoDB.escape, c] else [c]) = [c] :=
      fun c mem => if_neg (h c mem).1
    rw [List.flatMap_congr chars]
    simp
  rw [textLiteral, notQuoted, body, ← String.toList_inj]
  simp [inQuotes, mongoDB]

theorem literals_eq_map (dialect : Dialect) (values : List Value) :
    dialect.literals values = values.map dialect.literal := by
  induction values with
  | nil => rfl
  | cons value rest ih => rw [literals, ih, List.map_cons]

/-- Values that pass, joined in a list. -/
theorem passes_literals {values : List Value}
    (h : ∀ value ∈ values, Passes .outside (mongoDB.literal value)) :
    Passes .outside (bracketed (joined mongoDB.listSeparator (mongoDB.literals values))) := by
  refine Passes.bracketed (Passes.joined (by decide) fun part mem => ?_)
  rw [literals_eq_map, List.mem_map] at mem
  obtain ⟨value, hvalue, rfl⟩ := mem
  exact h value hvalue

end Dialect

theorem Value.Plain.passes_literal {value : Value} (h : value.Plain) :
    Passes .outside (Dialect.mongoDB.literal value) := by
  induction h with
  | bool value => exact Dialect.passes_boolToken value
  | int value => exact passes_toText_int value
  | text unquoted =>
    rw [Dialect.literal, Dialect.textLiteral_of_isUnquoted unquoted]
    exact unquoted.passes.inQuotes
  | list _ ih => exact Dialect.passes_literals ih
  | expansion _ ih => exact Dialect.passes_literals ih

end DetectionQuery.Query
