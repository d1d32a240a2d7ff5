import DetectionQuery.Proofs.Text.Digits
import DetectionQuery.Rule.Expression.Read
import Mathlib.Data.List.TakeWhile

/-!
How condition expressions are spelled, and that every spelling is read.

`Spelled context e tokens` is the grammar of expressions as a relation: the tokens spell `e` where
something that binds as strongly as `context` is expected. An operand that binds more weakly has to
stand in parentheses, any operand may, and so has the right operand of a connective of its own kind.

The reader is shown to follow the grammar, one strength at a time. An operand is read whatever
follows it that a connective or the end may follow (`ReadsOperand`); a chain is read up to where its
continuation takes over (`ReadsChain`), which lets a left-nested chain be read link by link.
-/

namespace DetectionQuery.Rule.Expression

open DetectionQuery.Query (Connective)

/-! ### The grammar -/

/-- How strongly the parts of an expression bind. -/
inductive Strength where
  | or
  | and
  | not
  | quantifier
deriving DecidableEq, Repr

/-- The strengths from weakest to strongest. -/
def Strength.rank : Strength → Nat
  | .or => 0
  | .and => 1
  | .not => 2
  | .quantifier => 3

/-- The strength of a connective, which its left operand has to have. -/
def Strength.left : Connective → Strength
  | .or => .or
  | .and => .and

/-- The strength that the right operand of a connective has to have. -/
def Strength.right : Connective → Strength
  | .or => .and
  | .and => .not

def connectiveWord : Connective → String
  | .or => "or"
  | .and => "and"

/-- The words that stand for a quantifier before `of`. -/
inductive QuantifierWord : Quantifier → List Char → Prop where
  | all {word : List Char} : isKeyword "all" word → QuantifierWord .all word
  | any {word : List Char} : isKeyword "any" word → QuantifierWord (.count 1) word
  | count (zeros least : Nat) :
      QuantifierWord (.count least) (List.replicate zeros '0' ++ Nat.toDigits 10 least)

/-- The tokens that spell an expression in a context. -/
inductive Spelled : Strength → Expression → List Token → Prop where
  | name (context : Strength) (name : String) : Spelled context (.name name) [.word name.toList]
  | parenthesised (context : Strength) {e : Expression} {tokens : List Token} :
      Spelled .or e tokens → Spelled context e (.opening :: (tokens ++ [.closing]))
  | not {context : Strength} {word : List Char} {e : Expression} {tokens : List Token} :
      context.rank ≤ Strength.not.rank → isKeyword "not" word → Spelled .not e tokens →
      Spelled context (.not e) (.word word :: tokens)
  | quantified (context : Strength) {quantifier : Quantifier} {word ofWord : List Char}
      {e : Expression} {tokens : List Token} :
      QuantifierWord quantifier word → isKeyword "of" ofWord → Spelled .quantifier e tokens →
      Spelled context (.quantified quantifier e) (.word word :: .word ofWord :: tokens)
  | binary {context : Strength} {connective : Connective} {word : List Char} {l r : Expression}
      {left right : List Token} :
      context.rank ≤ (Strength.left connective).rank →
      isKeyword (connectiveWord connective) word →
      Spelled (Strength.left connective) l left → Spelled (Strength.right connective) r right →
      Spelled context (.binary connective l r) (left ++ .word word :: right)

/-- Words that can stand for a selection: not a connective, not `not`, and not digits that run into
an `of`. -/
structure IsName (word : List Char) : Prop where
  ne_nil : word ≠ []
  chars : ∀ c ∈ word, isWordChar c = true
  not_and : isKeyword "and" word = false
  not_or : isKeyword "or" word = false
  not_not : isKeyword "not" word = false
  not_count : ∀ digits rest, word = digits ++ rest → digits ≠ [] →
    (∀ c ∈ digits, Text.isDigit c = true) → isKeyword "of" rest = false

/-- Expressions that can be spelled: the names are words for selections, and the counts are signed
64-bit integers. -/
def Admissible : Expression → Prop
  | .name word => IsName word.toList
  | .not operand => operand.Admissible
  | .quantified .all operand => operand.Admissible
  | .quantified (.count least) operand => least ≤ 2 ^ 63 - 1 ∧ operand.Admissible
  | .binary _ left right => left.Admissible ∧ right.Admissible

theorem Spelled.length_pos {context : Strength} {e : Expression} {tokens : List Token}
    (h : Spelled context e tokens) : 0 < tokens.length := by
  cases h with
  | binary => rw [List.length_append]; exact Nat.add_pos_right _ (Nat.succ_pos _)
  | _ => exact Nat.succ_pos _

/-! ### Words -/

/-- A word is at most one keyword. -/
theorem isKeyword_of_isKeyword {keyword other : String} {word : List Char}
    (h : isKeyword keyword word = true) : isKeyword other word = decide (keyword = other) := by
  simp only [isKeyword, decide_eq_true_eq] at h
  simp only [isKeyword, h, String.toList_inj]

theorem toLower_of_isDigit {c : Char} (h : Text.isDigit c = true) : c.toLower = c := by
  simp only [Text.isDigit, Bool.and_eq_true, decide_eq_true_eq, Char.le_def] at h
  have notUpper : ¬ (c.val ≥ 'A'.val ∧ c.val ≤ 'Z'.val) := by
    rintro ⟨upper, -⟩
    exact absurd (UInt32.le_trans upper h.2) (by decide)
  unfold Char.toLower
  rw [dif_neg notUpper]

/-- A keyword that is spelled without digits does not start with any. -/
theorem dropWhile_isDigit_of_isKeyword {keyword : String} {word : List Char}
    (letters : keyword.toList.any Text.isDigit = false) (h : isKeyword keyword word = true) :
    word.dropWhile Text.isDigit = word := by
  simp only [isKeyword, decide_eq_true_eq] at h
  cases word with
  | nil => rfl
  | cons c rest =>
    have lower : Text.isDigit c.toLower = false := by
      rw [← h, List.map_cons, List.any_cons, Bool.or_eq_false_iff] at letters
      exact letters.1
    cases digit : Text.isDigit c with
    | false => rw [List.dropWhile_cons, digit]; rfl
    | true =>
      rw [toLower_of_isDigit digit, digit] at lower
      cases lower

theorem joinedCount?_of_isKeyword {keyword : String} {word : List Char}
    (letters : keyword.toList.any Text.isDigit = false) (other : keyword ≠ "of")
    (h : isKeyword keyword word = true) : joinedCount? word = none := by
  rw [joinedCount?, dropWhile_isDigit_of_isKeyword letters h, isKeyword_of_isKeyword h]
  simp [other]

theorem isKeyword_of_digits {keyword : String} {word : List Char}
    (letters : keyword.toList.any Text.isDigit = false) (nonempty : keyword ≠ "")
    (h : ∀ c ∈ word, Text.isDigit c = true) : isKeyword keyword word = false := by
  cases same : isKeyword keyword word with
  | false => rfl
  | true =>
    have empty := dropWhile_isDigit_of_isKeyword letters same
    rw [List.dropWhile_eq_nil_iff.mpr h] at empty
    simp only [isKeyword, ← empty, List.map_nil, decide_eq_true_eq] at same
    exact absurd (String.toList_eq_nil_iff.mp same.symm) nonempty

theorem joinedCount?_of_digits {word : List Char} (h : ∀ c ∈ word, Text.isDigit c = true) :
    joinedCount? word = none := by
  rw [joinedCount?, List.dropWhile_eq_nil_iff.mpr h]
  rfl

/-- A name is no count that runs into its `of`. -/
theorem IsName.joinedCount?_eq_none {word : List Char} (h : IsName word) :
    joinedCount? word = none := by
  rw [joinedCount?]
  split
  · next isOf =>
    cases digits : word.takeWhile Text.isDigit with
    | nil => rfl
    | cons c rest =>
      have split : word = word.takeWhile Text.isDigit ++ word.dropWhile Text.isDigit :=
        List.takeWhile_append_dropWhile.symm
      have run : ∀ c ∈ word.takeWhile Text.isDigit, Text.isDigit c = true :=
        fun c mem => List.mem_takeWhile_imp mem
      have notOf := h.not_count _ _ split (by simp [digits]) run
      rw [isOf] at notOf
      cases notOf
  · rfl

theorem IsName.connective?_eq_none {word : List Char} (h : IsName word) :
    connective? word = none := by
  simp [connective?, h.not_and, h.not_or]

theorem connective?_of_isKeyword {connective : Connective} {word : List Char}
    (h : isKeyword (connectiveWord connective) word = true) :
    connective? word = some connective := by
  cases connective with
  | and => simp [connective?, show isKeyword "and" word = true from h]
  | or =>
    have notAnd : isKeyword "and" word = false := by rw [isKeyword_of_isKeyword h]; decide
    simp [connective?, notAnd, show isKeyword "or" word = true from h]

/-- A connective is no `of`. -/
theorem isKeyword_of_connective? {connective : Connective} {word : List Char}
    (h : connective? word = some connective) : isKeyword "of" word = false := by
  unfold connective? at h
  split at h
  · next isAnd => rw [isKeyword_of_isKeyword isAnd]; decide
  · split at h
    · next isOr => rw [isKeyword_of_isKeyword isOr]; decide
    · cases h

/-- A quantifier word is followed by its `of` as a word of its own. -/
theorem quantifier?_of_quantifierWord {quantifier : Quantifier} {word ofWord : List Char}
    (hword : QuantifierWord quantifier word) (hof : isKeyword "of" ofWord = true)
    (rest : List Token) :
    quantifier? (.word word :: .word ofWord :: rest) = some (quantifier, rest) := by
  have apart : joinedCount? word = none ∧ quantifierWord? word = some quantifier := by
    cases hword with
    | all isAll =>
      exact ⟨joinedCount?_of_isKeyword (by decide) (by decide) isAll,
        by simp [quantifierWord?, isAll]⟩
    | any isAny =>
      have notAll : isKeyword "all" word = false := by rw [isKeyword_of_isKeyword isAny]; decide
      exact ⟨joinedCount?_of_isKeyword (by decide) (by decide) isAny,
        by simp [quantifierWord?, notAll, isAny]⟩
    | count zeros least =>
      have digits : ∀ c ∈ List.replicate zeros '0' ++ Nat.toDigits 10 least,
          Text.isDigit c = true := by
        intro c mem
        rcases List.mem_append.mp mem with zero | digit
        · rw [List.eq_of_mem_replicate zero]
          decide
        · exact Text.isDigit_of_mem_toDigits digit
      refine ⟨joinedCount?_of_digits digits, ?_⟩
      rw [quantifierWord?, isKeyword_of_digits (by decide) (by decide) digits,
        isKeyword_of_digits (by decide) (by decide) digits, Text.readDigits_toDigits]
      rfl
  simp [quantifier?, apart.1, apart.2, hof]

/-! ### Operands and chains -/

/-- What may stand behind a link of a chain: the end, a parenthesis, or a connective, which for a
chain of `or` is `or`. -/
def Follows (connective : Connective) (rest : List Token) : Prop :=
  ∀ word more, rest = .word word :: more →
    ∃ next, connective? word = some next ∧ (connective = .or → next = .or)

/-- The tokens are read as an operand. Every token may take up to five nested readings. -/
def ReadsOperand (e : Expression) (tokens : List Token) : Prop :=
  ∀ rest steps, Follows .and rest → 5 * tokens.length ≤ steps + 4 →
    readOperand steps (tokens ++ rest) = some (e, rest)

/-- How many readings a chain may take beyond those of its tokens. -/
def slack : Connective → Nat
  | .and => 0
  | .or => 3

/-- The tokens are read as a link of a chain. -/
def ReadsLink (connective : Connective) (e : Expression) (tokens : List Token) : Prop :=
  ∀ rest steps, Follows connective rest → 5 * tokens.length + slack connective ≤ steps + 1 →
    readLink steps connective (tokens ++ rest) = some (e, rest)

/-- The tokens are read as the start of a chain: what reading on behind them gives is what reading
from their start gives. -/
def ReadsChain (connective : Connective) (e : Expression) (tokens : List Token) : Prop :=
  ∀ rest result bound steps, Follows connective rest →
    (∀ fewer, bound ≤ fewer → readChainFrom fewer connective e rest = some result) →
    bound + 5 * tokens.length + slack connective ≤ steps →
    readChain steps connective (tokens ++ rest) = some result

theorem Follows.weaken {connective : Connective} {rest : List Token} (h : Follows connective rest) :
    Follows .and rest := by
  intro word more starts
  obtain ⟨next, hnext, -⟩ := h word more starts
  exact ⟨next, hnext, fun impossible => by cases impossible⟩

theorem follows_nil (connective : Connective) : Follows connective [] := by
  intro word more starts
  cases starts

theorem follows_closing (connective : Connective) (rest : List Token) :
    Follows connective (.closing :: rest) := by
  intro word more starts
  cases starts

theorem follows_connective {connective : Connective} {word : List Char}
    (h : isKeyword (connectiveWord connective) word = true) (rest : List Token) :
    Follows connective (.word word :: rest) := by
  intro other more starts
  cases starts
  exact ⟨connective, connective?_of_isKeyword h, fun same => same⟩

/-- A chain ends where no connective of its kind follows. -/
theorem readChainFrom_end {connective : Connective} {rest : List Token}
    (h : ∀ word more, rest = .word word :: more → connective? word ≠ some connective)
    (e : Expression) {steps : Nat} (enough : 1 ≤ steps) :
    readChainFrom steps connective e rest = some (e, rest) := by
  obtain ⟨steps, rfl⟩ : ∃ fewer, steps = fewer + 1 := ⟨steps - 1, by omega⟩
  match rest with
  | [] => rfl
  | .opening :: more => rfl
  | .closing :: more => rfl
  | .word word :: more =>
    simp only [readChainFrom, h word more rfl, if_false]

theorem ReadsOperand.link {e : Expression} {tokens : List Token} (h : ReadsOperand e tokens)
    (nonempty : 0 < tokens.length) : ReadsLink .and e tokens := by
  intro rest steps follows enough
  rw [slack] at enough
  obtain ⟨steps, rfl⟩ : ∃ fewer, steps = fewer + 1 := ⟨steps - 1, by omega⟩
  exact h rest steps follows (by omega)

/-- A chain of `and` is a link of a chain of `or`. -/
theorem ReadsChain.link {e : Expression} {tokens : List Token} (h : ReadsChain .and e tokens) :
    ReadsLink .or e tokens := by
  intro rest steps follows enough
  rw [slack] at enough
  obtain ⟨steps, rfl⟩ : ∃ fewer, steps = fewer + 1 := ⟨steps - 1, by omega⟩
  refine h rest (e, rest) 1 steps follows.weaken (fun fewer => readChainFrom_end ?_ e) ?_
  · intro word more starts isAnd
    obtain ⟨next, hnext, isOr⟩ := follows word more starts
    rw [isAnd, isOr rfl] at hnext
    cases hnext
  · rw [slack]
    omega

/-- A link on its own is a chain. -/
theorem ReadsLink.chain {connective : Connective} {e : Expression} {tokens : List Token}
    (h : ReadsLink connective e tokens) (nonempty : 0 < tokens.length) :
    ReadsChain connective e tokens := by
  intro rest result bound steps follows continues enough
  obtain ⟨steps, rfl⟩ : ∃ fewer, steps = fewer + 1 := ⟨steps - 1, by omega⟩
  rw [readChain, h rest steps follows (by omega)]
  exact continues steps (by omega)

/-- A chain followed by its connective and a further link is a chain. -/
theorem ReadsChain.binary {connective : Connective} {l r : Expression} {left right : List Token}
    {word : List Char} (hl : ReadsChain connective l left) (hr : ReadsLink connective r right)
    (nonempty : 0 < right.length) (hword : isKeyword (connectiveWord connective) word = true) :
    ReadsChain connective (.binary connective l r) (left ++ .word word :: right) := by
  intro rest result bound steps follows continues enough
  have small : slack connective ≤ 3 := by cases connective <;> decide
  rw [List.length_append, List.length_cons] at enough
  rw [List.append_assoc]
  refine hl _ result (bound + 5 * right.length + slack connective) steps
    (follows_connective hword _) (fun fewer hfewer => ?_) (by omega)
  -- Behind the chain so far stands its connective: one more link is read, then the rest.
  obtain ⟨fewer, rfl⟩ : ∃ steps, fewer = steps + 1 := ⟨fewer - 1, by omega⟩
  simp only [List.cons_append, readChainFrom, connective?_of_isKeyword hword, if_true,
    hr rest fewer follows (by omega)]
  exact continues fewer (by omega)

theorem quantifier?_of_follows {word : List Char} {rest : List Token}
    (apart : joinedCount? word = none) (follows : Follows .and rest) :
    quantifier? (.word word :: rest) = none := by
  match rest with
  | [] => simp [quantifier?, apart]
  | .opening :: more => simp [quantifier?, apart]
  | .closing :: more => simp [quantifier?, apart]
  | .word next :: more =>
    obtain ⟨connective, hnext, -⟩ := follows next more rfl
    simp [quantifier?, apart, isKeyword_of_connective? hnext]

theorem readsOperand_name {name : String} (h : IsName name.toList) :
    ReadsOperand (.name name) [.word name.toList] := by
  intro rest steps follows enough
  rw [List.length_singleton] at enough
  obtain ⟨steps, rfl⟩ : ∃ fewer, steps = fewer + 1 := ⟨steps - 1, by omega⟩
  rw [List.singleton_append, readOperand,
    quantifier?_of_follows h.joinedCount?_eq_none follows]
  simp [h.not_not, h.connective?_eq_none]

theorem readsOperand_parenthesised {e : Expression} {tokens : List Token}
    (h : ReadsChain .or e tokens) : ReadsOperand e (.opening :: (tokens ++ [.closing])) := by
  intro rest steps follows enough
  rw [List.length_cons, List.length_append, List.length_singleton] at enough
  obtain ⟨steps, rfl⟩ : ∃ fewer, steps = fewer + 1 := ⟨steps - 1, by omega⟩
  have inner : readChain steps .or (tokens ++ .closing :: rest) = some (e, .closing :: rest) := by
    refine h _ (e, .closing :: rest) 1 steps (follows_closing .or rest)
      (fun fewer => readChainFrom_end ?_ e) (by rw [slack]; omega)
    intro word more starts
    cases starts
  rw [List.cons_append, List.append_assoc, readOperand, quantifier?, List.singleton_append]
  · simp [inner]
  · intro word more starts
    cases starts

theorem quantifier?_of_not {word : List Char} (h : isKeyword "not" word = true)
    (rest : List Token) : quantifier? (.word word :: rest) = none := by
  have apart := joinedCount?_of_isKeyword (by decide) (by decide) h
  have notAll : isKeyword "all" word = false := by rw [isKeyword_of_isKeyword h]; decide
  have notAny : isKeyword "any" word = false := by rw [isKeyword_of_isKeyword h]; decide
  have letters : Text.readDigits 10 word = none := by
    cases digits : Text.readDigits 10 word with
    | none => rfl
    | some n =>
      have notNot : isKeyword "not" word = false :=
        isKeyword_of_digits (by decide) (by decide) (Text.isDigit_of_readDigits digits)
      rw [h] at notNot
      cases notNot
  have noWord : quantifierWord? word = none := by
    simp [quantifierWord?, notAll, notAny, letters]
  match rest with
  | [] => simp [quantifier?, apart]
  | .opening :: more => simp [quantifier?, apart]
  | .closing :: more => simp [quantifier?, apart]
  | .word next :: more => simp [quantifier?, apart, noWord]

theorem readsOperand_not {word : List Char} {e : Expression} {tokens : List Token}
    (hword : isKeyword "not" word = true) (h : ReadsOperand e tokens) :
    ReadsOperand (.not e) (.word word :: tokens) := by
  intro rest steps follows enough
  rw [List.length_cons] at enough
  obtain ⟨steps, rfl⟩ : ∃ fewer, steps = fewer + 1 := ⟨steps - 1, by omega⟩
  rw [List.cons_append, readOperand, quantifier?_of_not hword]
  simp [hword, h rest steps follows (by omega)]

theorem readsOperand_quantified {quantifier : Quantifier} {word ofWord : List Char}
    {e : Expression} {tokens : List Token} (hword : QuantifierWord quantifier word)
    (hof : isKeyword "of" ofWord = true) (h : ReadsOperand e tokens) :
    ReadsOperand (.quantified quantifier e) (.word word :: .word ofWord :: tokens) := by
  intro rest steps follows enough
  rw [List.length_cons, List.length_cons] at enough
  obtain ⟨steps, rfl⟩ : ∃ fewer, steps = fewer + 1 := ⟨steps - 1, by omega⟩
  rw [List.cons_append, List.cons_append, readOperand, quantifier?_of_quantifierWord hword hof]
  simp [h rest steps follows (by omega)]

/-! ### Every spelling is read -/

/-- The tokens are read where something of the given strength is expected. -/
def ReadsAs : Strength → Expression → List Token → Prop
  | .or, e, tokens => ReadsChain .or e tokens
  | .and, e, tokens => ReadsChain .and e tokens
  | .not, e, tokens => ReadsOperand e tokens
  | .quantifier, e, tokens => ReadsOperand e tokens

/-- An operand can stand anywhere. -/
theorem ReadsOperand.readsAs {e : Expression} {tokens : List Token} (h : ReadsOperand e tokens)
    (nonempty : 0 < tokens.length) (context : Strength) : ReadsAs context e tokens := by
  have chain := (h.link nonempty).chain nonempty
  cases context with
  | or => exact chain.link.chain nonempty
  | and => exact chain
  | not => exact h
  | quantifier => exact h

/-- A chain can stand where nothing stronger than its connective is expected. -/
theorem ReadsChain.readsAs {connective : Connective} {e : Expression} {tokens : List Token}
    (h : ReadsChain connective e tokens) (nonempty : 0 < tokens.length) {context : Strength}
    (weak : context.rank ≤ (Strength.left connective).rank) : ReadsAs context e tokens := by
  cases connective with
  | or =>
    cases context with
    | or => exact h
    | _ => exact absurd weak (by decide)
  | and =>
    cases context with
    | or => exact h.link.chain nonempty
    | and => exact h
    | _ => exact absurd weak (by decide)

/-- The right operand of a connective is read as a link of its chain. -/
theorem ReadsAs.link {connective : Connective} {e : Expression} {tokens : List Token}
    (h : ReadsAs (Strength.right connective) e tokens) (nonempty : 0 < tokens.length) :
    ReadsLink connective e tokens := by
  cases connective with
  | or => exact ReadsChain.link h
  | and => exact ReadsOperand.link h nonempty

/-- Every spelling of an admissible expression is read as the expression. -/
theorem Spelled.readsAs {context : Strength} {e : Expression} {tokens : List Token}
    (h : Spelled context e tokens) (admissible : e.Admissible) : ReadsAs context e tokens := by
  induction h with
  | name context name => exact (readsOperand_name admissible).readsAs (Nat.succ_pos _) context
  | parenthesised context _ ih =>
    exact (readsOperand_parenthesised (ih admissible)).readsAs (Nat.succ_pos _) context
  | @not context _ _ _ weak hword _ ih =>
    exact (readsOperand_not hword (ih admissible)).readsAs (Nat.succ_pos _) context
  | @quantified context quantifier _ _ operand tokens hword hof _ ih =>
    have inner : ReadsAs .quantifier operand tokens := by
      cases quantifier with
      | all => exact ih admissible
      | count least => exact ih admissible.2
    exact (readsOperand_quantified hword hof inner).readsAs (Nat.succ_pos _) context
  | @binary context connective _ l _ left _ weak hword hl hr ihl ihr =>
    have nonempty := hr.length_pos
    have chain : ReadsChain connective l left := by
      cases connective <;> exact ihl admissible.1
    have link := (ihr admissible.2).link nonempty
    have whole := Spelled.binary weak hword hl hr
    exact (chain.binary link nonempty hword).readsAs whole.length_pos weak

theorem Spelled.readAll_eq {e : Expression} {tokens : List Token} (h : Spelled .or e tokens)
    (admissible : e.Admissible) : readAll tokens = some e := by
  have chain : readChain (5 * tokens.length + 5) .or (tokens ++ []) = some (e, []) := by
    refine h.readsAs admissible [] (e, []) 1 _ (follows_nil .or)
      (fun fewer => readChainFrom_end ?_ e) (by rw [slack]; omega)
    intro word more starts
    cases starts
  rw [List.append_nil] at chain
  rw [readAll, chain]

end DetectionQuery.Rule.Expression
