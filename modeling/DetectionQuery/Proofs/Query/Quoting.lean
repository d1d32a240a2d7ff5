import DetectionQuery.Proofs.Query.Literal
import DetectionQuery.Query.Render

/-!
Texts written as literals of their own.

A text that is no literal yet is put between quotes, with each quote inside it escaped
(`shieldQuotes`). The escape character itself is written as it is, so a reader takes it for an
escape and makes one character of two: what is read is then shorter than the text, and the literal
may not even end (`length_le_of_readBody`). Hence a text is read back exactly if it holds no escape
character (`readLiteral_shieldQuotes_iff`).

A text that stands between quotes is taken for a literal. Since this is decided by the number of
bytes, a lone quote of several bytes is taken for one as well (`isQuoted_iff`).
-/

namespace DetectionQuery.Query.Dialect

open DetectionQuery.Text

variable {dialect : Dialect}

/-- The text is an opening quote, a body and a closing quote. -/
def IsEnclosed (dialect : Dialect) (text : String) : Prop :=
  ∃ body, text.toList = dialect.quote :: (body ++ [dialect.quote])

/-- The text is one quote of several bytes. -/
def IsWideQuote (dialect : Dialect) (text : String) : Prop :=
  text.toList = [dialect.quote] ∧ 2 ≤ dialect.quote.utf8Size

/-- `written` is one literal that reads as `text`: it starts with a quote, and behind that the first
quote that is not escaped is its last character. -/
def IsLiteralOf (dialect : Dialect) (written text : String) : Prop :=
  ∃ inside, written.toList = dialect.quote :: inside ∧
    readLiteral dialect.quote dialect.escape inside = some (text.toList, [])

theorem IsEnclosed.two_le_length {text : String} (h : dialect.IsEnclosed text) :
    2 ≤ text.length := by
  obtain ⟨body, chars⟩ := h
  rw [← String.length_toList, chars]
  simp

/-! ### Texts that are taken for literals -/

theorem utf8ByteSize_of_toList {text : String} {c : Char} {rest : List Char}
    (h : text.toList = c :: rest) :
    text.utf8ByteSize = c.utf8Size + (String.ofList rest).utf8ByteSize := by
  have same : text = String.ofList (c :: rest) := by rw [← h, String.ofList_toList]
  rw [same, String.ofList_cons, String.utf8ByteSize_append, String.utf8ByteSize_singleton]

theorem isQuoted_iff {text : String} :
    dialect.isQuoted text = true ↔ dialect.IsEnclosed text ∨ dialect.IsWideQuote text := by
  simp only [isQuoted, Bool.and_eq_true, decide_eq_true_eq, beq_iff_eq]
  constructor
  · rintro ⟨⟨size, head⟩, last⟩
    cases chars : text.toList with
    | nil => simp [chars] at head
    | cons c rest =>
      obtain rfl : c = dialect.quote := by simpa [chars] using head
      rcases List.eq_nil_or_concat rest with rfl | ⟨body, d, rfl⟩
      · rw [utf8ByteSize_of_toList chars] at size
        exact .inr ⟨chars, by simpa using size⟩
      · rw [chars, List.concat_eq_append, ← List.cons_append, List.getLast?_concat] at last
        cases last
        exact .inl ⟨body, by simpa using chars⟩
  · rintro (⟨body, chars⟩ | ⟨chars, wide⟩)
    · have first := dialect.quote.utf8Size_pos
      have size : 2 ≤ text.utf8ByteSize := by
        rw [utf8ByteSize_of_toList chars, String.ofList_append, String.utf8ByteSize_append,
          ← String.singleton_eq_ofList, String.utf8ByteSize_singleton]
        omega
      refine ⟨⟨size, by rw [chars, List.head?_cons]⟩, ?_⟩
      rw [chars, ← List.cons_append, List.getLast?_concat]
    · have size : 2 ≤ text.utf8ByteSize := by
        rw [utf8ByteSize_of_toList chars]
        simpa using wide
      simp [chars, size]

/-! ### Texts that are put between quotes -/

/-- The characters with an escape before each quote. -/
def shieldQuotes (dialect : Dialect) (cs : List Char) : List Char :=
  cs.flatMap fun c => if c = dialect.quote then [dialect.escape, c] else [c]

theorem shieldQuotes_quote (cs : List Char) :
    dialect.shieldQuotes (dialect.quote :: cs) =
      dialect.escape :: dialect.quote :: dialect.shieldQuotes cs := by
  simp [shieldQuotes]

theorem shieldQuotes_cons {c : Char} (h : c ≠ dialect.quote) (cs : List Char) :
    dialect.shieldQuotes (c :: cs) = c :: dialect.shieldQuotes cs := by
  simp [shieldQuotes, h]

theorem toList_textLiteral {text : String} (h : dialect.isQuoted text = false) :
    (dialect.textLiteral text).toList =
      dialect.quote :: (dialect.shieldQuotes text.toList ++ [dialect.quote]) := by
  simp [textLiteral, h, shieldQuotes]

/-- A text without the escape character is read as it is. -/
theorem decodes_shieldQuotes (distinct : dialect.escape ≠ dialect.quote) {cs : List Char}
    (h : dialect.escape ∉ cs) :
    Decodes dialect.quote dialect.escape (dialect.shieldQuotes cs) cs := by
  have chars : ∀ c ∈ cs, Decodes dialect.quote dialect.escape
      (if c = dialect.quote then [dialect.escape, c] else [c]) [c] := by
    intro c mem
    split
    · exact Decodes.escaped distinct c
    · next quote => exact Decodes.char quote fun same => h (same ▸ mem)
  simpa [shieldQuotes] using Decodes.flatMap chars

/-- What is read is never longer than the text, wherever the literal is found to end. -/
theorem length_le_of_readBody {shielded : Bool} {cs read rest : List Char}
    (h : readBody dialect.quote dialect.escape shielded
      (dialect.shieldQuotes cs ++ [dialect.quote]) = some (read, rest)) :
    read.length ≤ cs.length := by
  induction cs generalizing shielded read with
  | nil =>
    cases shielded with
    | false =>
      simp [shieldQuotes, readBody] at h
      simp [h]
    | true => simp [shieldQuotes, readBody] at h
  | cons c cs ih =>
    rw [List.length_cons]
    by_cases quote : c = dialect.quote
    · -- Of the two characters written for a quote, at most one is read, or the literal ends here.
      rw [quote, shieldQuotes_quote] at h
      rcases readBody_cases h with ⟨-, -, rfl, -⟩ | ⟨-, -, h⟩ | ⟨more, rfl, h, -⟩
      · exact Nat.zero_le _
      · rcases readBody_cases h with ⟨⟨⟩, -⟩ | ⟨⟨⟩, -⟩ | ⟨more, rfl, h, -⟩
        exact Nat.succ_le_succ (ih h)
      · rcases readBody_cases h with ⟨-, -, rfl, -⟩ | ⟨-, -, h⟩ | ⟨_, -, -, shields | ⟨plain, -⟩⟩
        · exact Nat.succ_le_succ (Nat.zero_le _)
        · exact Nat.succ_le_succ (ih h)
        · cases shields
        · exact absurd rfl plain
    · rw [shieldQuotes_cons quote] at h
      rcases readBody_cases h with ⟨-, -, rfl, -⟩ | ⟨-, -, h⟩ | ⟨more, rfl, h, -⟩
      · exact Nat.zero_le _
      · exact Nat.le_succ_of_le (ih h)
      · exact Nat.succ_le_succ (ih h)

theorem escape_not_mem_of_readBody (distinct : dialect.escape ≠ dialect.quote) {cs : List Char}
    (h : readBody dialect.quote dialect.escape false
      (dialect.shieldQuotes cs ++ [dialect.quote]) = some (cs, [])) :
    dialect.escape ∉ cs := by
  induction cs with
  | nil => exact List.not_mem_nil
  | cons c cs ih =>
    rw [List.mem_cons, not_or]
    by_cases quote : c = dialect.quote
    · subst quote
      rw [shieldQuotes_quote] at h
      rcases readBody_cases h with ⟨-, -, ⟨⟩, -⟩ | ⟨-, -, h⟩ | ⟨more, same, -, -⟩
      · rcases readBody_cases h with ⟨⟨⟩, -⟩ | ⟨⟨⟩, -⟩ | ⟨more, same, h, -⟩
        cases same
        exact ⟨distinct, ih h⟩
      · exact absurd (List.cons.inj same).1.symm distinct
    · rw [shieldQuotes_cons quote] at h
      rcases readBody_cases h with ⟨-, -, ⟨⟩, -⟩ | ⟨-, -, h⟩ | ⟨more, same, h, plain⟩
      · -- An escape is not read itself, so that the rest would be read as more than it holds.
        exact absurd (length_le_of_readBody h) (Nat.not_succ_le_self _)
      · cases same
        rcases plain with shields | ⟨-, plain⟩
        · cases shields
        · exact ⟨Ne.symm plain, ih h⟩

/-- Between quotes, a text is read back exactly if it does not hold the escape character. -/
theorem readLiteral_shieldQuotes_iff (distinct : dialect.escape ≠ dialect.quote) {cs : List Char} :
    readLiteral dialect.quote dialect.escape (dialect.shieldQuotes cs ++ [dialect.quote]) =
        some (cs, []) ↔
      dialect.escape ∉ cs := by
  constructor
  · exact escape_not_mem_of_readBody distinct
  · intro h
    exact (decodes_shieldQuotes distinct h).readLiteral_eq []

/-- **Which texts are written as literals that read as them.** Among the texts that do not stand
between quotes already, these are the ones without the escape character, except for a quote of
several bytes on its own. -/
theorem isLiteralOf_textLiteral_iff (distinct : dialect.escape ≠ dialect.quote) {text : String}
    (plain : ¬ dialect.IsEnclosed text) :
    dialect.IsLiteralOf (dialect.textLiteral text) text ↔
      dialect.escape ∉ text.toList ∧ ¬ dialect.IsWideQuote text := by
  by_cases wide : dialect.IsWideQuote text
  · refine iff_of_false ?_ (fun good => good.2 wide)
    rintro ⟨inside, written, read⟩
    rw [textLiteral, if_pos (isQuoted_iff.mpr (.inr wide)), wide.1] at written
    cases written
    cases read
  · have quoted : dialect.isQuoted text = false := by
      rw [Bool.eq_false_iff, ne_eq, isQuoted_iff]
      exact not_or.mpr ⟨plain, wide⟩
    rw [and_iff_left wide, ← readLiteral_shieldQuotes_iff distinct, IsLiteralOf,
      toList_textLiteral quoted]
    constructor
    · rintro ⟨inside, same, read⟩
      cases same
      exact read
    · intro read
      exact ⟨_, rfl, read⟩

/-- **Keywords and members of lists as literals.** A text that does not stand between quotes already
is written, on its own, as a keyword or within a list, as one literal that reads as the text exactly
if it does not hold the escape character and is not a single quote of several bytes. -/
theorem text_isLiteralOf_iff {dialect : Dialect} (distinct : dialect.escape ≠ dialect.quote)
    {pattern : Pattern} (plain : ¬ dialect.IsEnclosed pattern.text) :
    (dialect.IsLiteralOf (dialect.literal (.text pattern)) pattern.text ↔
      dialect.escape ∉ pattern.text.toList ∧ ¬ dialect.IsWideQuote pattern.text) ∧
    dialect.renderLeaf (.equals none (.text pattern)) =
      .ok (Fragment.keyword (dialect.literal (.text pattern))) ∧
    ∀ field name before after, dialect.fieldName field = .ok name →
      dialect.renderLeaf (.equals (some field) (.list (before ++ .text pattern :: after))) =
        .ok (Fragment.oneOf name dialect.inToken
          (dialect.literals before ++ dialect.literal (.text pattern) :: dialect.literals after)
          dialect.listSeparator) := by
  refine ⟨isLiteralOf_textLiteral_iff distinct plain, rfl, ?_⟩
  intro field name before after accepted
  have members : dialect.literals (before ++ .text pattern :: after) =
      dialect.literals before ++ dialect.literal (.text pattern) :: dialect.literals after := by
    simp only [literals_eq_map, List.map_append, List.map_cons]
  rw [← members, renderLeaf, renderEquals, accepted]
  rfl

/-- Quotes inside a text and at its end are read back. -/
theorem text_isLiteralOf_iff_greeting :
    mongoDB.escape ≠ mongoDB.quote ∧ ¬ mongoDB.IsEnclosed "say \"hi\"" ∧
      mongoDB.IsLiteralOf "\"say \\\"hi\\\"\"" "say \"hi\"" := by
  have distinct : mongoDB.escape ≠ mongoDB.quote := by decide
  have plain : ¬ mongoDB.IsEnclosed (Pattern.ofText "say \"hi\"").text := by
    rintro ⟨body, chars⟩
    have head : (Pattern.ofText "say \"hi\"").text.toList.head? = some '"' := by
      rw [chars]
      rfl
    exact absurd head (by decide)
  have readable := (text_isLiteralOf_iff distinct plain).1.mpr
  exact ⟨distinct, plain, readable ⟨by decide, fun wide => absurd wide.1 (by decide)⟩⟩

/-- The dialect of MongoDB with a quote of three bytes. -/
def curlyQuoted : Dialect := { mongoDB with quote := '“' }

/-- The literal of a backslash does not end, and a quote of three bytes is left without a closing
one. -/
theorem literal_unclosed :
    (mongoDB.escape ≠ mongoDB.quote ∧ ¬ mongoDB.IsEnclosed "\\" ∧
      mongoDB.literal (.text (.ofText "\\")) = "\"\\\"" ∧
      ¬ mongoDB.IsLiteralOf (mongoDB.literal (.text (.ofText "\\"))) "\\") ∧
    curlyQuoted.escape ≠ curlyQuoted.quote ∧ ¬ curlyQuoted.IsEnclosed "“" ∧
      curlyQuoted.literal (.text (.ofText "“")) = "“" ∧
      ¬ curlyQuoted.IsLiteralOf (curlyQuoted.literal (.text (.ofText "“"))) "“" := by
  have backslash : ¬ mongoDB.IsEnclosed "\\" := fun h => absurd h.two_le_length (by decide)
  have curly : ¬ curlyQuoted.IsEnclosed "“" := fun h => absurd h.two_le_length (by decide)
  refine ⟨⟨by decide, backslash, by decide, ?_⟩, by decide, curly, by decide, ?_⟩
  · intro literal
    exact ((isLiteralOf_textLiteral_iff (by decide) backslash).mp literal).1 (by decide)
  · intro literal
    exact ((isLiteralOf_textLiteral_iff (by decide) curly).mp literal).2 ⟨by decide, by decide⟩

end DetectionQuery.Query.Dialect
