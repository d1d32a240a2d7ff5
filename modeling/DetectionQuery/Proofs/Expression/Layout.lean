import DetectionQuery.Proofs.Expression.Spelling
import DetectionQuery.Proofs.Expression.Taken

/-!
Condition expressions as text.

A text lays out tokens: it writes them one after the other, with any blanks before, between and
behind them and at least one between two words (`Laid`). Cutting such a text gives the tokens back
(`Laid.tokenize_eq`), so every text that lays out a spelling of an admissible expression is read as
exactly that expression, and every admissible expression has such a text (`read_rendering`).
-/

namespace DetectionQuery.Rule.Expression

open DetectionQuery.Query (Connective)

/-! ### Layout -/

def Token.text : Token → List Char
  | .opening => ['(']
  | .closing => [')']
  | .word characters => characters

/-- Whether the tokens start with a word. -/
def StartsWithWord (tokens : List Token) : Prop :=
  ∃ word rest, tokens = .word word :: rest

/-- The text writes the tokens, with blanks wherever it likes but at least one between two words. -/
inductive Laid : List Token → List Char → Prop where
  | nil {blanks : List Char} : (∀ c ∈ blanks, isBlank c = true) → Laid [] blanks
  | cons {blanks text : List Char} {token : Token} {tokens : List Token} :
      (∀ c ∈ blanks, isBlank c = true) →
      (StartsWithWord [token] → StartsWithWord tokens →
        ∃ blank rest, text = blank :: rest ∧ isBlank blank = true) →
      Laid tokens text → Laid (token :: tokens) (blanks ++ token.text ++ text)

/-- The text writes a spelling of the expression. -/
def Rendering (e : Expression) (text : String) : Prop :=
  ∃ tokens, Spelled .or e tokens ∧ Laid tokens text.toList

/-! ### Cutting a text into its tokens -/

theorem isWordChar_of_isBlank {c : Char} (h : isBlank c = true) : isWordChar c = false := by
  simp only [isBlank, Bool.or_eq_true, decide_eq_true_eq] at h
  rcases h with ((rfl | rfl) | rfl) | rfl <;> decide

theorem isBlank_of_isWordChar {c : Char} (h : isWordChar c = true) : isBlank c = false := by
  cases blank : isBlank c with
  | false => rfl
  | true =>
    rw [isWordChar_of_isBlank blank] at h
    cases h

theorem tokenize_blank {c : Char} (h : isBlank c = true) (rest : List Char) :
    tokenize (c :: rest) = tokenize rest := by
  rw [tokenize, h]
  · rfl
  · rintro rfl
    revert h
    decide
  · rintro rfl
    revert h
    decide

theorem tokenize_wordChar {c : Char} (h : isWordChar c = true) (rest : List Char) :
    tokenize (c :: rest) = (tokenize rest).map (extend c (rest.head?.any isWordChar)) := by
  rw [tokenize, isBlank_of_isWordChar h, h]
  · rfl
  · rintro rfl
    revert h
    decide
  · rintro rfl
    revert h
    decide

theorem tokenize_blanks {blanks : List Char} (h : ∀ c ∈ blanks, isBlank c = true)
    (rest : List Char) : tokenize (blanks ++ rest) = tokenize rest := by
  induction blanks with
  | nil => rfl
  | cons c blanks ih =>
    rw [List.cons_append, tokenize_blank (h c List.mem_cons_self),
      ih fun d mem => h d (List.mem_cons_of_mem _ mem)]

/-- A word ends where no further character of a word follows. -/
theorem tokenize_word {word : List Char} (nonempty : word ≠ [])
    (chars : ∀ c ∈ word, isWordChar c = true) {rest : List Char} {tokens : List Token}
    (ends : rest.head?.any isWordChar = false) (h : tokenize rest = some tokens) :
    tokenize (word ++ rest) = some (.word word :: tokens) := by
  induction word with
  | nil => exact absurd rfl nonempty
  | cons c word ih =>
    rw [List.cons_append, tokenize_wordChar (chars c List.mem_cons_self)]
    cases word with
    | nil =>
      rw [List.nil_append, h, ends, Option.map_some]
      cases tokens with
      | nil => rfl
      | cons token tokens => cases token <;> rfl
    | cons d word =>
      have inner := ih (by simp) fun c mem => chars c (List.mem_cons_of_mem _ mem)
      rw [inner, Option.map_some]
      simp [extend, chars d]

/-- A text that lays out tokens starts with a character of a word only if the tokens start with a
word. -/
theorem Laid.startsWithWord {tokens : List Token} {text : List Char} (h : Laid tokens text)
    (head : text.head?.any isWordChar = true) : StartsWithWord tokens := by
  have notBlank {c : Char} {rest : List Char} (blanks : List Char)
      (hblanks : ∀ c ∈ blanks, isBlank c = true)
      (first : (blanks ++ c :: rest).head?.any isWordChar = true) : isWordChar c = true := by
    cases blanks with
    | nil => simpa using first
    | cons blank blanks =>
      have isBlank := isWordChar_of_isBlank (hblanks blank List.mem_cons_self)
      simp [isBlank] at first
  cases h with
  | nil hblanks =>
    cases text with
    | nil => cases head
    | cons c rest =>
      have isBlank := isWordChar_of_isBlank (hblanks c List.mem_cons_self)
      simp [isBlank] at head
  | @cons blanks _ token _ hblanks _ _ =>
    cases token with
    | word characters => exact ⟨characters, _, rfl⟩
    | opening =>
      rw [List.append_assoc] at head
      exact absurd (notBlank blanks hblanks head) (by decide)
    | closing =>
      rw [List.append_assoc] at head
      exact absurd (notBlank blanks hblanks head) (by decide)

/-- Behind a word, the text goes on with something else than a character of a word. -/
theorem Laid.ends {tokens : List Token} {text : List Char} (h : Laid tokens text)
    (apart : StartsWithWord tokens → ∃ blank rest, text = blank :: rest ∧ isBlank blank = true) :
    text.head?.any isWordChar = false := by
  cases head : text.head?.any isWordChar with
  | false => rfl
  | true =>
    obtain ⟨blank, more, rfl, isBlank⟩ := apart (h.startsWithWord head)
    rw [List.head?_cons, Option.any_some, isWordChar_of_isBlank isBlank] at head
    cases head

/-- A text that lays out tokens is cut into these tokens. -/
theorem Laid.tokenize_eq {tokens : List Token} {text : List Char} (h : Laid tokens text)
    (words : ∀ word, .word word ∈ tokens → word ≠ [] ∧ ∀ c ∈ word, isWordChar c = true) :
    tokenize text = some tokens := by
  induction h with
  | nil hblanks => simpa [tokenize] using tokenize_blanks hblanks []
  | @cons blanks text token tokens hblanks apart htext ih =>
    have rest := ih fun word mem => words word (List.mem_cons_of_mem _ mem)
    rw [List.append_assoc, tokenize_blanks hblanks]
    cases token with
    | opening => rw [Token.text, List.singleton_append, tokenize, rest]; rfl
    | closing => rw [Token.text, List.singleton_append, tokenize, rest]; rfl
    | word characters =>
      obtain ⟨nonempty, chars⟩ := words characters List.mem_cons_self
      exact tokenize_word nonempty chars (htext.ends (apart ⟨characters, [], rfl⟩)) rest

/-! ### The words of a spelling -/

theorem isAlphanum_of_toLower {c : Char} (h : c.toLower.isAlphanum = true) :
    c.isAlphanum = true := by
  by_cases upper : c.val ≥ 'A'.val ∧ c.val ≤ 'Z'.val
  · have isUpper : c.isUpper = true := by
      unfold Char.isUpper
      simpa using upper
    unfold Char.isAlphanum Char.isAlpha
    rw [isUpper, Bool.true_or, Bool.true_or]
  · unfold Char.toLower at h
    rwa [dif_neg upper] at h

/-- The word of a keyword in any letter case. -/
theorem word_of_isKeyword {keyword : String} {word : List Char} (nonempty : keyword ≠ "")
    (letters : keyword.toList.all Char.isAlphanum = true) (h : isKeyword keyword word = true) :
    word ≠ [] ∧ ∀ c ∈ word, isWordChar c = true := by
  simp only [isKeyword, decide_eq_true_eq] at h
  constructor
  · rintro rfl
    exact nonempty (String.toList_eq_nil_iff.mp h.symm)
  · intro c mem
    have lower : c.toLower ∈ keyword.toList := by
      rw [← h]
      exact List.mem_map_of_mem mem
    have alphanum := isAlphanum_of_toLower (List.all_eq_true.mp letters _ lower)
    simp [isWordChar, alphanum]

theorem QuantifierWord.word {quantifier : Quantifier} {word : List Char}
    (h : QuantifierWord quantifier word) : word ≠ [] ∧ ∀ c ∈ word, isWordChar c = true := by
  cases h with
  | all isAll => exact word_of_isKeyword (by decide) (by decide) isAll
  | any isAny => exact word_of_isKeyword (by decide) (by decide) isAny
  | count zeros least =>
    refine ⟨fun empty => Nat.toDigits_ne_nil (List.append_eq_nil_iff.mp empty).2, ?_⟩
    intro c mem
    rcases List.mem_append.mp mem with zero | digit
    · rw [List.eq_of_mem_replicate zero]
      decide
    · have isDigit := Nat.isDigit_of_mem_toDigits (by decide) (by decide) digit
      simp [isWordChar, Char.isAlphanum, isDigit]

/-- The words of a spelling are words. -/
theorem Spelled.words {context : Strength} {e : Expression} {tokens : List Token}
    (h : Spelled context e tokens) (admissible : e.Admissible) {word : List Char}
    (mem : .word word ∈ tokens) : word ≠ [] ∧ ∀ c ∈ word, isWordChar c = true := by
  induction h with
  | name context name =>
    cases List.mem_singleton.mp mem
    exact ⟨admissible.ne_nil, admissible.chars⟩
  | parenthesised context _ ih =>
    refine ih admissible ?_
    simpa using mem
  | not _ hword _ ih =>
    rcases List.mem_cons.mp mem with same | later
    · cases same
      exact word_of_isKeyword (by decide) (by decide) hword
    · exact ih admissible later
  | @quantified context quantifier _ _ _ _ hword hof _ ih =>
    rcases List.mem_cons.mp mem with same | later
    · cases same
      exact hword.word
    · rcases List.mem_cons.mp later with same | later
      · cases same
        exact word_of_isKeyword (by decide) (by decide) hof
      · cases quantifier with
        | all => exact ih admissible later
        | count least => exact ih admissible.2 later
  | @binary _ connective _ _ _ _ _ _ hword _ _ ihl ihr =>
    rcases List.mem_append.mp mem with inLeft | later
    · exact ihl admissible.1 inLeft
    · rcases List.mem_cons.mp later with same | inRight
      · cases same
        cases connective with
        | or => exact word_of_isKeyword (by decide) (by decide) hword
        | and => exact word_of_isKeyword (by decide) (by decide) hword
      · exact ihr admissible.2 inRight

/-! ### Every expression can be written -/

theorem exists_quantifierWord (quantifier : Quantifier) :
    ∃ word, QuantifierWord quantifier word := by
  cases quantifier with
  | all => exact ⟨['a', 'l', 'l'], .all (by decide)⟩
  | count least => exact ⟨_, .count 0 least⟩

/-- With every operand in parentheses, every expression can be spelled anywhere. -/
theorem exists_spelled (e : Expression) : ∃ tokens, Spelled .or e tokens := by
  induction e with
  | name name => exact ⟨_, .name .or name⟩
  | not operand ih =>
    obtain ⟨tokens, h⟩ := ih
    have word : isKeyword "not" ['n', 'o', 't'] = true := by decide
    exact ⟨_, .not (by decide) word (.parenthesised .not h)⟩
  | quantified quantifier operand ih =>
    obtain ⟨tokens, h⟩ := ih
    obtain ⟨word, hword⟩ := exists_quantifierWord quantifier
    have hof : isKeyword "of" ['o', 'f'] = true := by decide
    exact ⟨_, .quantified .or hword hof (.parenthesised .quantifier h)⟩
  | binary connective left right ihl ihr =>
    obtain ⟨leftTokens, hl⟩ := ihl
    obtain ⟨rightTokens, hr⟩ := ihr
    have word :
        isKeyword (connectiveWord connective) (connectiveWord connective).toList = true := by
      cases connective <;> decide
    exact ⟨_, .binary (Nat.zero_le _) word (.parenthesised _ hl) (.parenthesised _ hr)⟩

theorem exists_laid (tokens : List Token) : ∃ rest, Laid tokens (' ' :: rest) := by
  have space : ∀ c ∈ [' '], isBlank c = true := by simp [isBlank]
  induction tokens with
  | nil => exact ⟨[], .nil space⟩
  | cons token tokens ih =>
    obtain ⟨rest, h⟩ := ih
    exact ⟨_, .cons space (fun _ _ => ⟨' ', rest, rfl, by decide⟩) h⟩

theorem Admissible.countsAtMost {e : Expression} (h : e.Admissible) :
    e.countsAtMost greatestCount = true := by
  induction e with
  | name name => rfl
  | not operand ih => exact ih h
  | quantified quantifier operand ih =>
    cases quantifier with
    | all => exact ih h
    | count least =>
      have small : least ≤ greatestCount := h.1
      simp [Expression.countsAtMost, small, ih h.2]
  | binary connective left right ihl ihr =>
    simp [Expression.countsAtMost, ihl h.1, ihr h.2]

/-- **Every rendering is read.** An admissible expression can be written, and however it is written
(with further parentheses, blanks, letter cases, leading zeros, or `any` for one), its text is read
as exactly this expression. -/
theorem read_rendering {e : Expression} (admissible : e.Admissible) :
    (∃ text, Rendering e text) ∧ ∀ text, Rendering e text → read text = .ok e := by
  constructor
  · obtain ⟨tokens, spelled⟩ := exists_spelled e
    obtain ⟨rest, laid⟩ := exists_laid tokens
    exact ⟨String.ofList (' ' :: rest), tokens, spelled, by rwa [String.toList_ofList]⟩
  · rintro text ⟨tokens, spelled, laid⟩
    have cut := laid.tokenize_eq fun word mem => spelled.words admissible mem
    exact read_eq_ok_iff.mpr ⟨tokens, cut, spelled.readAll_eq admissible, admissible.countsAtMost⟩

/-- A word that starts with a letter is a name if it is no keyword of the grammar. -/
theorem isName_of_letter {c : Char} {rest : List Char} (letter : Text.isDigit c = false)
    (chars : (c :: rest).all isWordChar = true) (notAnd : isKeyword "and" (c :: rest) = false)
    (notOr : isKeyword "or" (c :: rest) = false) (notNot : isKeyword "not" (c :: rest) = false) :
    IsName (c :: rest) := by
  refine ⟨by simp, List.all_eq_true.mp chars, notAnd, notOr, notNot, ?_⟩
  intro digits more split nonempty run
  cases digits with
  | nil => exact absurd rfl nonempty
  | cons d digits =>
    have first : c = d := (List.cons.inj split).1
    rw [first, run d List.mem_cons_self] at letter
    cases letter

/-- A quantifier word can be a name, and a name may be written close to a parenthesis. -/
theorem read_rendering_mixed :
    Admissible (.binary .and (.not (.quantified (.count 1) (.name "sel_*")))
      (.binary .or (.name "all") (.name "b"))) ∧
    Rendering (.binary .and (.not (.quantified (.count 1) (.name "sel_*")))
      (.binary .or (.name "all") (.name "b"))) "NOT 01 oF\tsel_* and(all or b )" ∧
    read "NOT 01 oF\tsel_* and(all or b )" =
      .ok (.binary .and (.not (.quantified (.count 1) (.name "sel_*")))
        (.binary .or (.name "all") (.name "b"))) := by
  have admissible : Admissible (.binary .and (.not (.quantified (.count 1) (.name "sel_*")))
      (.binary .or (.name "all") (.name "b"))) :=
    ⟨⟨by decide, isName_of_letter (by decide) (by decide) (by decide) (by decide) (by decide)⟩,
      isName_of_letter (by decide) (by decide) (by decide) (by decide) (by decide),
      isName_of_letter (by decide) (by decide) (by decide) (by decide) (by decide)⟩
  have rendering : Rendering (.binary .and (.not (.quantified (.count 1) (.name "sel_*")))
      (.binary .or (.name "all") (.name "b"))) "NOT 01 oF\tsel_* and(all or b )" := by
    have hnot : isKeyword "not" ['N', 'O', 'T'] = true := by decide
    have hof : isKeyword "of" ['o', 'F'] = true := by decide
    have hand : isKeyword "and" ['a', 'n', 'd'] = true := by decide
    have hor : isKeyword "or" ['o', 'r'] = true := by decide
    refine ⟨_, .binary (by decide) hand
      (.not (by decide) hnot (.quantified _ (.count 1 1) hof (.name _ "sel_*")))
      (.parenthesised _ (.binary (by decide) hor (.name _ "all") (.name _ "b"))), ?_⟩
    have none : ∀ c ∈ ([] : List Char), isBlank c = true := by simp
    have space : ∀ c ∈ [' '], isBlank c = true := by simp [isBlank]
    have tab : ∀ c ∈ ['\t'], isBlank c = true := by simp [isBlank]
    exact .cons none (fun _ _ => ⟨_, _, rfl, rfl⟩) <| .cons space (fun _ _ => ⟨_, _, rfl, rfl⟩) <|
      .cons space (fun _ _ => ⟨_, _, rfl, rfl⟩) <| .cons tab (fun _ _ => ⟨_, _, rfl, rfl⟩) <|
      .cons space (fun _ ⟨_, _, h⟩ => nomatch h) <| .cons none (fun ⟨_, _, h⟩ => nomatch h) <|
      .cons none (fun _ _ => ⟨_, _, rfl, rfl⟩) <| .cons space (fun _ _ => ⟨_, _, rfl, rfl⟩) <|
      .cons space (fun _ ⟨_, _, h⟩ => nomatch h) <| .cons space (fun ⟨_, _, h⟩ => nomatch h) <|
      .nil none
  exact ⟨admissible, rendering, (read_rendering admissible).2 _ rendering⟩

end DetectionQuery.Rule.Expression
