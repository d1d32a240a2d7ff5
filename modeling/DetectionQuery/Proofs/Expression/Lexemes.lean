import DetectionQuery.Proofs.Expression.Layout
import Mathlib.Combinatorics.Enumerative.DyckWord
import Mathlib.Data.List.SplitBy

/-!
The words of a condition, in their order.

A text is cut into `lexemes` without regard to the grammar: into parentheses and longest runs of
word characters, of which the parentheses are then left out and a count that runs into its `of` is
taken apart. An expression has a sequence of its own, the names, keywords and quantifiers that one
meets from left to right (`symbols`). What is read from a text conveys exactly the lexemes of the
text, one symbol for each, and the parentheses of the text form a Dyck word
(`read_conveys_lexemes`).

The reader works on tokens, so there are two steps. The tokens of a text are laid out by it
(`laid_of_tokenize`), which gives its lexemes and parentheses; and what is taken for an expression
conveys it (`Taken.conveys`), by induction on the rules of the reader.
-/

namespace DetectionQuery.Rule.Expression

open DetectionQuery.Query (Connective)

/-! ### Lexemes of a text -/

/-- Whether two neighbouring characters belong to one run. -/
def joins (c d : Char) : Bool :=
  isWordChar c && isWordChar d

/-- The longest runs of word characters in a text and each other character but the blanks. -/
def runs (cs : List Char) : List (List Char) :=
  (cs.splitBy joins).filter fun run => !run.all isBlank

/-- A run of digits that goes on with `of` is two words. -/
def separated (run : List Char) : List (List Char) :=
  let digits := run.takeWhile Text.isDigit
  let rest := run.dropWhile Text.isDigit
  if digits ≠ [] ∧ isKeyword "of" rest then [digits, rest] else [run]

/-- The words of a text, from left to right. -/
def lexemes (cs : List Char) : List (List Char) :=
  ((runs cs).filter fun run => run ≠ ['('] ∧ run ≠ [')']).flatMap separated

/-- The side of a parenthesis. -/
def side? : Char → Option DyckStep
  | '(' => some .U
  | ')' => some .D
  | _ => none

/-! ### Symbols of an expression -/

/-- What an expression says at one place. -/
inductive Symbol where
  | name (word : String)
  | not
  | connective (connective : Connective)
  | quantifier (quantifier : Quantifier)
  | of
deriving DecidableEq, Repr

/-- What an expression says, from left to right. -/
def symbols : Expression → List Symbol
  | .name word => [.name word]
  | .not operand => .not :: operand.symbols
  | .quantified quantifier operand => .quantifier quantifier :: .of :: operand.symbols
  | .binary connective left right => left.symbols ++ .connective connective :: right.symbols

/-- The words for a symbol: a name is its own word and no keyword, keywords are written in any
letter case, and a count is written with its digits or, if it is one, as `any`. -/
inductive Symbol.WrittenAs : Symbol → List Char → Prop where
  | name {word : List Char} : isKeyword "not" word = false → connective? word = none →
      WrittenAs (.name (String.ofList word)) word
  | not {word : List Char} : isKeyword "not" word → WrittenAs .not word
  | connective {connective : Connective} {word : List Char} :
      isKeyword (connectiveWord connective) word → WrittenAs (.connective connective) word
  | quantifier {quantifier : Quantifier} {word : List Char} :
      QuantifierWord quantifier word → WrittenAs (.quantifier quantifier) word
  | of {word : List Char} : isKeyword "of" word → WrittenAs .of word

/-! ### A text lays out its tokens -/

theorem ne_nil_of_tokenize {cs : List Char} {tokens : List Token} (h : tokenize cs = some tokens)
    {word : List Char} (mem : .word word ∈ tokens) : word ≠ [] := by
  fun_induction tokenize cs generalizing tokens with
  | case1 =>
    cases h
    cases mem
  | case2 rest ih =>
    obtain ⟨behind, hbehind, rfl⟩ := Option.map_eq_some_iff.mp h
    exact ih hbehind (by simpa using mem)
  | case3 rest ih =>
    obtain ⟨behind, hbehind, rfl⟩ := Option.map_eq_some_iff.mp h
    exact ih hbehind (by simpa using mem)
  | case4 c rest _ _ blank ih => exact ih h mem
  | case5 c rest _ _ blank isWord ih =>
    obtain ⟨behind, hbehind, rfl⟩ := Option.map_eq_some_iff.mp h
    rcases word_mem_extend mem with ⟨more, rfl, -⟩ | later
    · exact List.cons_ne_nil c more
    · exact ih hbehind later
  | case6 => cases h

/-- The words among some tokens are words. -/
def AreWords (tokens : List Token) : Prop :=
  ∀ word, .word word ∈ tokens → word ≠ [] ∧ ∀ c ∈ word, isWordChar c = true

theorem areWords_of_tokenize {cs : List Char} {tokens : List Token}
    (h : tokenize cs = some tokens) : AreWords tokens :=
  fun _ mem => ⟨ne_nil_of_tokenize h mem, isWordChar_of_tokenize h mem⟩

theorem Laid.blank {c : Char} {tokens : List Token} {text : List Char} (blank : isBlank c = true)
    (h : Laid tokens text) : Laid tokens (c :: text) := by
  cases h with
  | nil hblanks => exact .nil (List.forall_mem_cons.mpr ⟨blank, hblanks⟩)
  | @cons blanks text token tokens hblanks apart htext =>
    exact .cons (List.forall_mem_cons.mpr ⟨blank, hblanks⟩) apart htext

/-- A character of a word in front of a text joins a word that the text starts with. -/
theorem Laid.extend {c : Char} {tokens : List Token} {text : List Char} (h : Laid tokens text)
    (words : AreWords tokens) :
    Laid (extend c (text.head?.any isWordChar) tokens) (c :: text) := by
  have none : ∀ c ∈ ([] : List Char), isBlank c = true := by simp
  cases h with
  | nil hblanks =>
    exact .cons none (by rintro _ ⟨_, _, ⟨⟩⟩) (.nil hblanks)
  | @cons blanks text token tokens hblanks apart htext =>
    cases token with
    | opening =>
      exact .cons none (by rintro _ ⟨_, _, ⟨⟩⟩) (.cons hblanks apart htext)
    | closing =>
      exact .cons none (by rintro _ ⟨_, _, ⟨⟩⟩) (.cons hblanks apart htext)
    | word characters =>
      cases blanks with
      | nil =>
        obtain ⟨nonempty, chars⟩ := words characters List.mem_cons_self
        cases characters with
        | nil => exact absurd rfl nonempty
        | cons d characters =>
          have adjacent : ([] ++ Token.text (.word (d :: characters)) ++ text).head?.any
              isWordChar = true := by
            simp [Token.text, chars d]
          rw [adjacent]
          exact .cons none (fun _ => apart ⟨_, _, rfl⟩) htext
      | cons blank blanks =>
        have isBlank := hblanks blank List.mem_cons_self
        have apart' : (blank :: blanks ++ Token.text (.word characters) ++ text).head?.any
            isWordChar = false := by
          simp [isWordChar_of_isBlank isBlank]
        rw [apart']
        exact .cons none (fun _ _ => ⟨blank, _, rfl, isBlank⟩) (.cons hblanks apart htext)

theorem laid_of_tokenize {cs : List Char} {tokens : List Token} (h : tokenize cs = some tokens) :
    Laid tokens cs := by
  have none : ∀ c ∈ ([] : List Char), isBlank c = true := by simp
  fun_induction tokenize cs generalizing tokens with
  | case1 =>
    cases h
    exact .nil none
  | case2 rest ih =>
    obtain ⟨behind, hbehind, rfl⟩ := Option.map_eq_some_iff.mp h
    exact .cons none (by rintro ⟨_, _, ⟨⟩⟩) (ih hbehind)
  | case3 rest ih =>
    obtain ⟨behind, hbehind, rfl⟩ := Option.map_eq_some_iff.mp h
    exact .cons none (by rintro ⟨_, _, ⟨⟩⟩) (ih hbehind)
  | case4 c rest _ _ blank ih => exact (ih h).blank blank
  | case5 c rest _ _ blank isWord ih =>
    obtain ⟨behind, hbehind, rfl⟩ := Option.map_eq_some_iff.mp h
    exact (ih hbehind).extend (areWords_of_tokenize hbehind)
  | case6 => cases h

/-! ### Lexemes and parentheses of a text that lays out tokens -/

def Token.lexemes : Token → List (List Char)
  | .word characters => separated characters
  | _ => []

def Token.side? : Token → Option DyckStep
  | .opening => some .U
  | .closing => some .D
  | .word _ => none

theorem splitBy_joins_cons {c : Char} (h : isWordChar c = false) (rest : List Char) :
    (c :: rest).splitBy joins = [c] :: rest.splitBy joins := by
  have ends : ∀ x ∈ [c].getLast?, ∀ y ∈ rest.head?, joins x y = false := by
    simp [joins, h]
  exact List.splitBy_append ends

theorem runs_blanks {blanks : List Char} (h : ∀ c ∈ blanks, isBlank c = true) (rest : List Char) :
    runs (blanks ++ rest) = runs rest := by
  induction blanks with
  | nil => rfl
  | cons c blanks ih =>
    have blank := h c List.mem_cons_self
    rw [← ih fun d mem => h d (List.mem_cons_of_mem _ mem), List.cons_append, runs,
      splitBy_joins_cons (isWordChar_of_isBlank blank)]
    simp [blank, runs]

/-- A character that is in no word and no blank is a run of its own. -/
theorem runs_cons {c : Char} (notWord : isWordChar c = false) (notBlank : isBlank c = false)
    (rest : List Char) : runs (c :: rest) = [c] :: runs rest := by
  rw [runs, splitBy_joins_cons notWord]
  simp [notBlank, runs]

/-- A word is a run if no further character of a word follows. -/
theorem runs_word {word rest : List Char} (nonempty : word ≠ [])
    (chars : ∀ c ∈ word, isWordChar c = true) (ends : rest.head?.any isWordChar = false) :
    runs (word ++ rest) = word :: runs rest := by
  have chain : word.IsChain fun c d => joins c d = true := by
    refine List.Pairwise.isChain (List.pairwise_of_forall_mem_list fun c hc d hd => ?_)
    simp [joins, chars c hc, chars d hd]
  have apart : ∀ x ∈ word.getLast?, ∀ y ∈ rest.head?, joins x y = false := by
    intro x _ y hy
    rw [Option.mem_def] at hy
    rw [hy, Option.any_some] at ends
    simp [joins, ends]
  have solid : word.all isBlank = false := by
    obtain ⟨c, more, rfl⟩ := List.exists_cons_of_ne_nil nonempty
    simp [isBlank_of_isWordChar (chars c List.mem_cons_self)]
  rw [runs, List.splitBy_append apart, List.splitBy_of_isChain nonempty chain, List.filter_append]
  simp [solid, runs]

/-- The runs of a text that lays out tokens are the tokens. -/
theorem Laid.runs_eq {tokens : List Token} {text : List Char} (h : Laid tokens text)
    (words : AreWords tokens) : runs text = tokens.map Token.text := by
  induction h with
  | nil hblanks => simpa [runs] using runs_blanks hblanks []
  | @cons blanks text token tokens hblanks apart htext ih =>
    rw [List.append_assoc, runs_blanks hblanks, List.map_cons,
      ← ih fun word mem => words word (List.mem_cons_of_mem _ mem)]
    cases token with
    | opening => exact runs_cons (by decide) (by decide) text
    | closing => exact runs_cons (by decide) (by decide) text
    | word characters =>
      obtain ⟨nonempty, chars⟩ := words characters List.mem_cons_self
      exact runs_word nonempty chars (htext.ends (apart ⟨characters, [], rfl⟩))

/-- The lexemes of a text that lays out tokens are the words of the tokens. -/
theorem Laid.lexemes_eq {tokens : List Token} {text : List Char} (h : Laid tokens text)
    (words : AreWords tokens) : lexemes text = tokens.flatMap Token.lexemes := by
  rw [lexemes, h.runs_eq words]
  clear h
  induction tokens with
  | nil => rfl
  | cons token tokens ih =>
    have rest := ih fun word mem => words word (List.mem_cons_of_mem _ mem)
    rw [List.map_cons, List.flatMap_cons, ← rest]
    cases token with
    | opening => rfl
    | closing => rfl
    | word characters =>
      have noParenthesis {c : Char} (h : isWordChar c = false) : characters ≠ [c] := by
        rintro rfl
        have isWord := (words [c] List.mem_cons_self).2 c List.mem_cons_self
        rw [h] at isWord
        cases isWord
      have kept : decide (characters ≠ ['('] ∧ characters ≠ [')']) = true := by
        simp [noParenthesis (show isWordChar '(' = false by decide),
          noParenthesis (show isWordChar ')' = false by decide)]
      rw [Token.text, List.filter_cons, if_pos kept, List.flatMap_cons]
      rfl

/-- Each character of a text that lays out tokens is a blank or belongs to a token. -/
theorem Laid.mem_text {tokens : List Token} {text : List Char} (h : Laid tokens text) {c : Char}
    (mem : c ∈ text) : isBlank c = true ∨ ∃ token ∈ tokens, c ∈ token.text := by
  induction h with
  | nil hblanks => exact .inl (hblanks c mem)
  | @cons blanks text token tokens hblanks apart htext ih =>
    rcases List.mem_append.mp mem with front | behind
    · rcases List.mem_append.mp front with blank | inToken
      · exact .inl (hblanks c blank)
      · exact .inr ⟨token, List.mem_cons_self, inToken⟩
    · rcases ih behind with blank | ⟨other, hother, inOther⟩
      · exact .inl blank
      · exact .inr ⟨other, List.mem_cons_of_mem _ hother, inOther⟩

theorem side?_eq_none {c : Char} (h : c ≠ '(' ∧ c ≠ ')') : side? c = none := by
  unfold side?
  split
  · exact absurd rfl h.1
  · exact absurd rfl h.2
  · rfl

theorem side?_of_isBlank {c : Char} (h : isBlank c = true) : side? c = none := by
  refine side?_eq_none ⟨?_, ?_⟩ <;> rintro rfl <;> revert h <;> decide

theorem side?_of_isWordChar {c : Char} (h : isWordChar c = true) : side? c = none := by
  refine side?_eq_none ⟨?_, ?_⟩ <;> rintro rfl <;> revert h <;> decide

/-- The parentheses of a text that lays out tokens are those of the tokens. -/
theorem Laid.sides_eq {tokens : List Token} {text : List Char} (h : Laid tokens text)
    (words : AreWords tokens) : text.filterMap side? = tokens.filterMap Token.side? := by
  induction h with
  | nil hblanks => exact List.filterMap_eq_nil_iff.mpr fun c mem => side?_of_isBlank (hblanks c mem)
  | @cons blanks text token tokens hblanks apart htext ih =>
    have rest := ih fun word mem => words word (List.mem_cons_of_mem _ mem)
    have none : blanks.filterMap side? = [] :=
      List.filterMap_eq_nil_iff.mpr fun c mem => side?_of_isBlank (hblanks c mem)
    rw [List.filterMap_append, List.filterMap_append, none, rest, List.nil_append]
    cases token with
    | opening => rfl
    | closing => rfl
    | word characters =>
      have chars := (words characters List.mem_cons_self).2
      have noSide : characters.filterMap side? = [] :=
        List.filterMap_eq_nil_iff.mpr fun c mem => side?_of_isWordChar (chars c mem)
      rw [Token.text, noSide]
      rfl

/-! ### Words of the reader -/

theorem separated_of_joinedCount?_eq_none {word : List Char} (h : joinedCount? word = none) :
    separated word = [word] := by
  refine if_neg ?_
  rintro ⟨nonempty, isOf⟩
  have digits : ∀ c ∈ word.takeWhile Text.isDigit, Text.isDigit c = true :=
    fun c mem => List.mem_takeWhile_imp mem
  obtain ⟨n, hn⟩ := Text.exists_readDigits nonempty digits
  rw [joinedCount?, if_pos isOf, hn] at h
  cases h

theorem separated_of_isKeyword {keyword : String} {word : List Char}
    (letters : keyword.toList.any Text.isDigit = false) (h : isKeyword keyword word = true) :
    separated word = [word] := by
  refine if_neg fun ⟨nonempty, _⟩ => nonempty ?_
  have whole : word.takeWhile Text.isDigit ++ word.dropWhile Text.isDigit = word :=
    List.takeWhile_append_dropWhile
  rw [dropWhile_isDigit_of_isKeyword letters h] at whole
  exact List.append_left_eq_self.mp whole

theorem quantifierWord_of_readDigits {word : List Char} {least : Nat}
    (h : Text.readDigits 10 word = some least) : QuantifierWord (.count least) word := by
  obtain ⟨zeros, rfl⟩ := Text.eq_toDigits_of_readDigits h
  exact .count zeros least

theorem quantifierWord_of_quantifierWord? {word : List Char} {quantifier : Quantifier}
    (h : quantifierWord? word = some quantifier) : QuantifierWord quantifier word := by
  unfold quantifierWord? at h
  split at h
  · next isAll =>
    cases h
    exact .all isAll
  · split at h
    · next isAny =>
      cases h
      exact .any isAny
    · obtain ⟨least, hleast, rfl⟩ := Option.map_eq_some_iff.mp h
      exact quantifierWord_of_readDigits hleast

theorem isKeyword_connectiveWord {word : List Char} {connective : Connective}
    (h : connective? word = some connective) :
    isKeyword (connectiveWord connective) word = true := by
  unfold connective? at h
  split at h
  · next isAnd =>
    cases h
    exact isAnd
  · split at h
    · next isOr =>
      cases h
      exact isOr
    · cases h

/-! ### What is taken conveys the expression -/

/-- Some tokens say what an expression says, and their parentheses match. -/
structure Conveys (tokens : List Token) (e : Expression) : Prop where
  lexemes : List.Forall₂ Symbol.WrittenAs e.symbols (tokens.flatMap Token.lexemes)
  sides : ∃ nesting : DyckWord, nesting.toList = tokens.filterMap Token.side?

theorem conveys_name {word : List Char} (plain : joinedCount? word = none)
    (noNot : isKeyword "not" word = false) (noConnective : connective? word = none) :
    Conveys [.word word] (.name (String.ofList word)) := by
  refine ⟨?_, 0, rfl⟩
  rw [List.flatMap_singleton, Token.lexemes, separated_of_joinedCount?_eq_none plain]
  exact .cons (.name noNot noConnective) .nil

section

variable {tokens right : List Token} {e l r : Expression}

theorem Conveys.not (h : Conveys tokens e) {word : List Char}
    (isNot : isKeyword "not" word = true) : Conveys (.word word :: tokens) (.not e) := by
  refine ⟨?_, h.sides⟩
  rw [List.flatMap_cons, Token.lexemes, separated_of_isKeyword (by decide) isNot]
  exact .cons (.not isNot) h.lexemes

theorem Conveys.quantified (h : Conveys tokens e) {front : List Token} {quantifier : Quantifier}
    {word ofWord : List Char} (words : front.flatMap Token.lexemes = [word, ofWord])
    (noSides : front.filterMap Token.side? = []) (hword : QuantifierWord quantifier word)
    (hof : isKeyword "of" ofWord = true) :
    Conveys (front ++ tokens) (.quantified quantifier e) := by
  refine ⟨?_, ?_⟩
  · rw [List.flatMap_append, words]
    exact .cons (.quantifier hword) (.cons (.of hof) h.lexemes)
  · rw [List.filterMap_append, noSides, List.nil_append]
    exact h.sides

theorem Conveys.parenthesised (h : Conveys tokens e) :
    Conveys (.opening :: (tokens ++ [.closing])) e := by
  obtain ⟨nesting, same⟩ := h.sides
  refine ⟨?_, nesting.nest, ?_⟩
  · simpa [Token.lexemes] using h.lexemes
  · simp [DyckWord.nest, Token.side?, same]

theorem Conveys.binary (hl : Conveys tokens l) (hr : Conveys right r) {word : List Char}
    {connective : Connective} (isConnective : connective? word = some connective) :
    Conveys (tokens ++ .word word :: right) (.binary connective l r) := by
  obtain ⟨leftNesting, leftSame⟩ := hl.sides
  obtain ⟨rightNesting, rightSame⟩ := hr.sides
  have keyword := isKeyword_connectiveWord isConnective
  have letters : (connectiveWord connective).toList.any Text.isDigit = false := by
    cases connective <;> decide
  refine ⟨?_, leftNesting + rightNesting, ?_⟩
  · rw [List.flatMap_append, List.flatMap_cons, Token.lexemes,
      separated_of_isKeyword letters keyword]
    exact List.rel_append hl.lexemes (.cons (.connective keyword) hr.lexemes)
  · rw [List.filterMap_append, ← leftSame]
    exact congrArg _ rightSame

end

/-- The tokens of a quantifier are its word and its `of`, in one token or in two. -/
theorem quantifier?_conveys {tokens behind : List Token} {quantifier : Quantifier}
    (h : quantifier? tokens = some (quantifier, behind)) :
    ∃ front word ofWord, tokens = front ++ behind ∧ front.flatMap Token.lexemes = [word, ofWord] ∧
      front.filterMap Token.side? = [] ∧ QuantifierWord quantifier word ∧
      isKeyword "of" ofWord = true := by
  unfold quantifier? at h
  split at h
  · next word rest =>
    split at h
    · next least joined =>
      cases h
      rw [joinedCount?] at joined
      split at joined
      · next isOf =>
        have nonempty : word.takeWhile Text.isDigit ≠ [] := by
          intro empty
          rw [empty] at joined
          cases joined
        have apart : separated word = [word.takeWhile Text.isDigit, word.dropWhile Text.isDigit] :=
          if_pos ⟨nonempty, isOf⟩
        exact ⟨[.word word], _, _, rfl, by rw [List.flatMap_singleton, Token.lexemes, apart], rfl,
          quantifierWord_of_readDigits joined, isOf⟩
      · cases joined
    · next plain =>
      split at h
      · next ofWord further =>
        split at h
        · next isOf =>
          obtain ⟨found, hfound, result⟩ := Option.map_eq_some_iff.mp h
          cases result
          refine ⟨[.word word, .word ofWord], word, ofWord, rfl, ?_, rfl,
            quantifierWord_of_quantifierWord? hfound, isOf⟩
          rw [List.flatMap_cons, List.flatMap_singleton, Token.lexemes, Token.lexemes,
            separated_of_joinedCount?_eq_none plain, separated_of_isKeyword (by decide) isOf]
          rfl
        · cases h
      · cases h
  · cases h

theorem joinedCount?_of_quantifier?_eq_none {word : List Char} {rest : List Token}
    (h : quantifier? (.word word :: rest) = none) : joinedCount? word = none := by
  cases joined : joinedCount? word with
  | none => rfl
  | some least =>
    simp only [quantifier?, joined] at h
    cases h

/-- What is taken for an expression conveys it. -/
theorem Taken.conveys {tokens rest : List Token} {e : Expression} (h : Taken tokens e rest) :
    ∃ taken, tokens = taken ++ rest ∧ Conveys taken e := by
  induction h with
  | @name word rest plain noNot noConnective =>
    exact ⟨[.word word], rfl,
      conveys_name (joinedCount?_of_quantifier?_eq_none plain) noNot noConnective⟩
  | @not word _ _ _ isNot _ ih =>
    obtain ⟨taken, rfl, conveys⟩ := ih
    exact ⟨.word word :: taken, rfl, conveys.not isNot⟩
  | quantified hquantifier _ ih =>
    obtain ⟨taken, rfl, conveys⟩ := ih
    obtain ⟨front, word, ofWord, rfl, words, noSides, hword, hof⟩ := quantifier?_conveys hquantifier
    exact ⟨front ++ taken, by rw [List.append_assoc], conveys.quantified words noSides hword hof⟩
  | parenthesised _ ih =>
    obtain ⟨taken, rfl, conveys⟩ := ih
    exact ⟨.opening :: (taken ++ [.closing]), by simp, conveys.parenthesised⟩
  | @binary _ word _ _ _ _ _ _ isConnective _ ihl ihr =>
    obtain ⟨left, rfl, leftConveys⟩ := ihl
    obtain ⟨right, rfl, rightConveys⟩ := ihr
    exact ⟨left ++ .word word :: right, by simp, leftConveys.binary rightConveys isConnective⟩

/-- **Nothing is lost, repeated or moved.** What is read from a text says exactly the words of the
text, from left to right and one symbol for each. The parentheses of the text match, and it holds no
characters but blanks, parentheses and those of words. -/
theorem read_conveys_lexemes {text : String} {e : Expression} (h : read text = .ok e) :
    List.Forall₂ Symbol.WrittenAs e.symbols (lexemes text.toList) ∧
    (∃ nesting : DyckWord, nesting.toList = text.toList.filterMap side?) ∧
    ∀ c ∈ text.toList, isBlank c = true ∨ isWordChar c = true ∨ c = '(' ∨ c = ')' := by
  obtain ⟨tokens, cut, taken⟩ := taken_of_read h
  have words := areWords_of_tokenize cut
  have laid := laid_of_tokenize cut
  obtain ⟨all, rfl, conveys⟩ := taken.conveys
  rw [List.append_nil] at words laid
  refine ⟨?_, ?_, fun c mem => ?_⟩
  · rw [laid.lexemes_eq words]
    exact conveys.lexemes
  · rw [laid.sides_eq words]
    exact conveys.sides
  · rcases laid.mem_text mem with blank | ⟨token, htoken, inToken⟩
    · exact .inl blank
    · cases token with
      | opening => exact .inr (.inr (.inl (List.mem_singleton.mp inToken)))
      | closing => exact .inr (.inr (.inr (List.mem_singleton.mp inToken)))
      | word characters => exact .inr (.inl ((words characters htoken).2 c inToken))

/-- A count that runs into its `of`, words close to parentheses, and a keyword that is a name. -/
theorem read_conveys_lexemes_close :
    read "1of(sel_*)AND not(of)" =
      .ok (.binary .and (.quantified (.count 1) (.name "sel_*")) (.not (.name "of"))) ∧
    lexemes "1of(sel_*)AND not(of)".toList = [['1'], ['o', 'f'], ['s', 'e', 'l', '_', '*'],
      ['A', 'N', 'D'], ['n', 'o', 't'], ['o', 'f']] ∧
    List.Forall₂ Symbol.WrittenAs
      [.quantifier (.count 1), .of, .name "sel_*", .connective .and, .not, .name "of"]
      (lexemes "1of(sel_*)AND not(of)".toList) := by
  have cut : tokenize "1of(sel_*)AND not(of)".toList = some [.word ['1', 'o', 'f'], .opening,
      .word ['s', 'e', 'l', '_', '*'], .closing, .word ['A', 'N', 'D'], .word ['n', 'o', 't'],
      .opening, .word ['o', 'f'], .closing] := by
    decide
  have whole : readAll [.word ['1', 'o', 'f'], .opening, .word ['s', 'e', 'l', '_', '*'], .closing,
      .word ['A', 'N', 'D'], .word ['n', 'o', 't'], .opening, .word ['o', 'f'], .closing] =
      some (.binary .and (.quantified (.count 1) (.name "sel_*")) (.not (.name "of"))) := by
    decide +kernel
  have expression : read "1of(sel_*)AND not(of)" =
      .ok (.binary .and (.quantified (.count 1) (.name "sel_*")) (.not (.name "of"))) :=
    read_eq_ok_iff.mpr ⟨_, cut, whole, rfl⟩
  exact ⟨expression, by decide, (read_conveys_lexemes expression).1⟩

end DetectionQuery.Rule.Expression
