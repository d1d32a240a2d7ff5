import DetectionQuery.Rule.Expression.Read

/-!
What the reader of condition expressions takes.

`Taken tokens e rest` says, without a bound on steps, how the reader comes from the tokens to the
expression `e` and the tokens `rest` behind it: one rule for each way in which it continues. Each of
the four mutually recursive readers keeps to these rules (`TakesWithin`), by induction on the bound,
so that what is true of everything the reader returns is proved by induction on the rules. The first
such fact is that the names of an expression are words of its text (`isWordChar_of_read`).
-/

namespace DetectionQuery.Rule.Expression

open DetectionQuery.Query (Connective)

/-- The reader takes the tokens up to `rest` for the expression. -/
inductive Taken : List Token → Expression → List Token → Prop where
  | name {word : List Char} {rest : List Token} :
      quantifier? (.word word :: rest) = none → isKeyword "not" word = false →
      connective? word = none → Taken (.word word :: rest) (.name (String.ofList word)) rest
  | not {word : List Char} {operand : Expression} {behind rest : List Token} :
      isKeyword "not" word = true → Taken behind operand rest →
      Taken (.word word :: behind) (.not operand) rest
  | quantified {quantifier : Quantifier} {operand : Expression} {tokens behind rest : List Token} :
      quantifier? tokens = some (quantifier, behind) → Taken behind operand rest →
      Taken tokens (.quantified quantifier operand) rest
  | parenthesised {e : Expression} {behind rest : List Token} :
      Taken behind e (.closing :: rest) → Taken (.opening :: behind) e rest
  | binary {connective : Connective} {word : List Char} {left right : Expression}
      {tokens behind rest : List Token} :
      Taken tokens left (.word word :: behind) → connective? word = some connective →
      Taken behind right rest → Taken tokens (.binary connective left right) rest

/-! ### The reader keeps to the rules -/

/-- What the readers return within a number of steps is taken by the rules. A reader that continues
a chain adds to what the chain took so far. -/
structure TakesWithin (steps : Nat) : Prop where
  operand {tokens rest : List Token} {e : Expression} :
    readOperand steps tokens = some (e, rest) → Taken tokens e rest
  link {connective : Connective} {tokens rest : List Token} {e : Expression} :
    readLink steps connective tokens = some (e, rest) → Taken tokens e rest
  chain {connective : Connective} {tokens rest : List Token} {e : Expression} :
    readChain steps connective tokens = some (e, rest) → Taken tokens e rest
  chainFrom {connective : Connective} {left e : Expression} {start tokens rest : List Token} :
    Taken start left tokens → readChainFrom steps connective left tokens = some (e, rest) →
    Taken start e rest

section Step

variable {steps : Nat} {connective : Connective} {tokens rest : List Token} {e : Expression}

theorem TakesWithin.operand_succ (within : TakesWithin steps)
    (h : readOperand (steps + 1) tokens = some (e, rest)) : Taken tokens e rest := by
  unfold readOperand at h
  split at h
  · next quantifier behind hquantifier =>
    obtain ⟨⟨operand, rest⟩, hoperand, result⟩ := Option.bind_eq_some_iff.mp h
    cases result
    exact .quantified hquantifier (within.operand hoperand)
  · next plain =>
    split at h
    · next word behind =>
      split at h
      · next isNot =>
        obtain ⟨⟨operand, rest⟩, hoperand, result⟩ := Option.bind_eq_some_iff.mp h
        cases result
        exact .not isNot (within.operand hoperand)
      · next noNot =>
        split at h
        · cases h
        · next noConnective =>
          cases h
          exact .name plain (by simpa using noNot) (by simpa using noConnective)
    · next behind =>
      split at h
      · next inner closed hinner =>
        cases h
        exact .parenthesised (within.chain hinner)
      · cases h
    · cases h

theorem TakesWithin.link_succ (within : TakesWithin steps)
    (h : readLink (steps + 1) connective tokens = some (e, rest)) : Taken tokens e rest := by
  cases connective with
  | or => exact within.chain h
  | and => exact within.operand h

theorem TakesWithin.chain_succ (within : TakesWithin steps)
    (h : readChain (steps + 1) connective tokens = some (e, rest)) : Taken tokens e rest := by
  rw [readChain] at h
  obtain ⟨⟨first, behind⟩, hfirst, hrest⟩ := Option.bind_eq_some_iff.mp h
  exact within.chainFrom (within.link hfirst) hrest

theorem TakesWithin.chainFrom_succ {left : Expression} {start : List Token}
    (within : TakesWithin steps) (before : Taken start left tokens)
    (h : readChainFrom (steps + 1) connective left tokens = some (e, rest)) :
    Taken start e rest := by
  unfold readChainFrom at h
  split at h
  · next word behind =>
    split at h
    · next same =>
      obtain ⟨⟨right, further⟩, hright, hrest⟩ := Option.bind_eq_some_iff.mp h
      exact within.chainFrom (.binary before same (within.link hright)) hrest
    · cases h
      exact before
  · cases h
    exact before

end Step

theorem takesWithin (steps : Nat) : TakesWithin steps := by
  induction steps with
  | zero => exact ⟨nofun, nofun, nofun, fun _ => nofun⟩
  | succ steps ih => exact ⟨ih.operand_succ, ih.link_succ, ih.chain_succ, ih.chainFrom_succ⟩

theorem taken_of_readAll {tokens : List Token} {e : Expression} (h : readAll tokens = some e) :
    Taken tokens e [] := by
  rw [readAll] at h
  split at h
  · next hchain =>
    cases h
    exact (takesWithin _).chain hchain
  · cases h

/-- A text is read in three steps: it is cut into tokens, these are one expression, and its counts
are small enough. -/
theorem read_eq_ok_iff {text : String} {e : Expression} :
    read text = .ok e ↔ ∃ tokens, tokenize text.toList = some tokens ∧
      readAll tokens = some e ∧ e.countsAtMost greatestCount = true := by
  constructor
  · intro h
    rw [read] at h
    split at h
    · cases h
    · next expression whole =>
      split at h
      · next small =>
        cases h
        obtain ⟨tokens, cut, all⟩ := Option.bind_eq_some_iff.mp whole
        exact ⟨tokens, cut, all, small⟩
      · cases h
  · rintro ⟨tokens, cut, all, small⟩
    rw [read, cut, Option.bind_some, all]
    exact if_pos small

/-- What is read from a text is taken from all of its tokens. -/
theorem taken_of_read {text : String} {e : Expression} (h : read text = .ok e) :
    ∃ tokens, tokenize text.toList = some tokens ∧ Taken tokens e [] := by
  obtain ⟨tokens, cut, all, -⟩ := read_eq_ok_iff.mp h
  exact ⟨tokens, cut, taken_of_readAll all⟩

/-! ### Names are words of the text -/

/-- The names in an expression from left to right, the targets of quantifiers among them. -/
def names : Expression → List String
  | .name word => [word]
  | .not operand => operand.names
  | .quantified _ operand => operand.names
  | .binary _ left right => left.names ++ right.names

theorem quantifier?_suffix {tokens behind : List Token} {quantifier : Quantifier}
    (h : quantifier? tokens = some (quantifier, behind)) : behind <:+ tokens := by
  unfold quantifier? at h
  split at h
  · next word rest =>
    split at h
    · cases h
      exact List.suffix_cons _ _
    · split at h
      · next following further =>
        split at h
        · obtain ⟨_, -, result⟩ := Option.map_eq_some_iff.mp h
          cases result
          exact (List.suffix_cons _ _).trans (List.suffix_cons _ _)
        · cases h
      · cases h
  · cases h

theorem Taken.suffix {tokens rest : List Token} {e : Expression} (h : Taken tokens e rest) :
    rest <:+ tokens := by
  induction h with
  | name => exact List.suffix_cons _ _
  | not _ _ ih => exact ih.trans (List.suffix_cons _ _)
  | quantified hquantifier _ ih => exact ih.trans (quantifier?_suffix hquantifier)
  | parenthesised _ ih => exact ((List.suffix_cons _ _).trans ih).trans (List.suffix_cons _ _)
  | binary _ _ _ ihl ihr => exact (ihr.trans (List.suffix_cons _ _)).trans ihl

theorem Taken.word_mem {tokens rest : List Token} {e : Expression} (h : Taken tokens e rest)
    {name : String} (mem : name ∈ e.names) : .word name.toList ∈ tokens := by
  induction h with
  | name =>
    rw [List.mem_singleton.mp mem, String.toList_ofList]
    exact List.mem_cons_self
  | not _ _ ih => exact List.mem_cons_of_mem _ (ih mem)
  | quantified hquantifier _ ih => exact (quantifier?_suffix hquantifier).mem (ih mem)
  | parenthesised _ ih => exact List.mem_cons_of_mem _ (ih mem)
  | binary hleft _ _ ihl ihr =>
    rcases List.mem_append.mp mem with inLeft | inRight
    · exact ihl inLeft
    · exact hleft.suffix.mem (List.mem_cons_of_mem _ (ihr inRight))

/-- A character in front of the tokens stands in front of at most one of their words. -/
theorem word_mem_extend {c : Char} {adjacent : Bool} {tokens : List Token} {word : List Char}
    (h : .word word ∈ extend c adjacent tokens) :
    (∃ more, word = c :: more ∧ (more = [] ∨ .word more ∈ tokens)) ∨ .word word ∈ tokens := by
  unfold extend at h
  split at h
  · next characters rest =>
    split at h
    · rcases List.mem_cons.mp h with same | later
      · cases same
        exact .inl ⟨characters, rfl, .inr List.mem_cons_self⟩
      · exact .inr (List.mem_cons_of_mem _ later)
    · rcases List.mem_cons.mp h with same | later
      · cases same
        exact .inl ⟨[], rfl, .inl rfl⟩
      · exact .inr later
  · rcases List.mem_cons.mp h with same | later
    · cases same
      exact .inl ⟨[], rfl, .inl rfl⟩
    · exact .inr later

theorem isWordChar_of_tokenize {cs : List Char} {tokens : List Token}
    (h : tokenize cs = some tokens) {word : List Char} (mem : .word word ∈ tokens) :
    ∀ c ∈ word, isWordChar c = true := by
  fun_induction tokenize cs generalizing tokens word with
  | case1 =>
    cases h
    cases mem
  | case2 rest ih =>
    obtain ⟨behind, hbehind, rfl⟩ := Option.map_eq_some_iff.mp h
    exact ih hbehind (by simpa using mem)
  | case3 rest ih =>
    obtain ⟨behind, hbehind, rfl⟩ := Option.map_eq_some_iff.mp h
    exact ih hbehind (by simpa using mem)
  | case4 c rest _ _ blank ih => exact ih h mem
  | case5 c rest _ _ blank isWord ih =>
    obtain ⟨behind, hbehind, rfl⟩ := Option.map_eq_some_iff.mp h
    rcases word_mem_extend mem with ⟨more, rfl, continued⟩ | later
    · intro d member
      rcases List.mem_cons.mp member with rfl | further
      · exact isWord
      · rcases continued with rfl | inBehind
        · cases further
        · exact ih hbehind inBehind d further
    · exact ih hbehind later
  | case6 => cases h

/-- The names of an expression that is read consist of the characters of words. -/
theorem isWordChar_of_read {text : String} {e : Expression} (h : read text = .ok e) {name : String}
    (mem : name ∈ e.names) : ∀ c ∈ name.toList, isWordChar c = true := by
  obtain ⟨tokens, cut, taken⟩ := taken_of_read h
  exact isWordChar_of_tokenize cut (taken.word_mem mem)

end DetectionQuery.Rule.Expression
