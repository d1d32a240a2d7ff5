import DetectionQuery.Proofs.Query.Literal
import DetectionQuery.Query.Fragment

/-!
Reading the objects of a query.

`Object.read` reads a text that is one value as a whole: an object, a literal or a bare word. The
keys of an object are literals or bare words; a bare word ends where a blank, a bracket or a
separator stands, and as a key it has to end at its colon.

`Reads text content` says that `text` is read as `content` wherever a blank follows it. It holds of
literals (`Reads.inQuotes`) and words (`Reads.word`), and passes from the value of an only member to
the object (`Reads.member`).
-/

namespace DetectionQuery.Query.Object

open DetectionQuery.Text

/-- What is written in an object. -/
inductive Content where
  | object (members : List (String × Content))
  | text (text : String)
  | word (word : String)
deriving Repr

def isBlank (c : Char) : Bool :=
  9 ≤ c.toNat && c.toNat ≤ 13 || 0x2000 ≤ c.toNat && c.toNat ≤ 0x200a ||
    [0x20, 0x85, 0xa0, 0x1680, 0x2028, 0x2029, 0x202f, 0x205f, 0x3000].contains c.toNat

/-- Whether a character can stand in a bare word: it is not blank, no bracket and no separator. -/
def isBare (c : Char) : Bool :=
  !(isBlank c || c = ',' || c = ':' || c = '\x7b' || c = '\x7d' || c = '[' || c = ']')

/-- What stands behind a symbol and the blanks before it. -/
def symbol? (symbol : Char) (cs : List Char) : Option (List Char) :=
  match cs.dropWhile isBlank with
  | [] => none
  | c :: rest => if c = symbol then some rest else none

/-- What stands behind a colon. -/
def behindColon? : List Char → Option (List Char)
  | [] => none
  | c :: rest => if c = ':' then some rest else none

/-- The key at the start of a text, and what stands behind its colon. -/
def key? (cs : List Char) : Option (String × List Char) :=
  match cs.dropWhile isBlank with
  | [] => none
  | c :: rest =>
    if c = '"' then do
      let (key, rest) ← readLiteral '"' '\\' rest
      return (String.ofList key, ← behindColon? rest)
    else do
      let after ← behindColon? ((c :: rest).dropWhile isBare)
      return (String.ofList ((c :: rest).takeWhile isBare), after)

mutual

/-- Reads a value in at most `steps` nested readings. -/
def readWithin : Nat → List Char → Option (Content × List Char)
  | 0, _ => none
  | steps + 1, cs =>
    match cs.dropWhile isBlank with
    | [] => none
    | c :: rest =>
      if c = '\x7b' then
        match symbol? '\x7d' rest with
        | some rest => some (.object [], rest)
        | none => do
          let (members, rest) ← readMembers steps rest
          return (.object members, rest)
      else if c = '"' then do
        let (text, rest) ← readLiteral '"' '\\' rest
        return (.text (String.ofList text), rest)
      else if isBare c then
        some (.word (String.ofList (c :: rest.takeWhile isBare)), rest.dropWhile isBare)
      else none

/-- Reads one or more members of an object up to the brace that closes it. -/
def readMembers : Nat → List Char → Option (List (String × Content) × List Char)
  | 0, _ => none
  | steps + 1, cs => do
    let (key, rest) ← key? cs
    let (value, rest) ← readWithin steps rest
    match symbol? ',' rest with
    | some rest => do
      let (members, rest) ← readMembers steps rest
      return ((key, value) :: members, rest)
    | none => do
      let rest ← symbol? '\x7d' rest
      return ([(key, value)], rest)

end

/-- Reads a text that is one value as a whole. -/
def read (text : String) : Option Content :=
  match readWithin text.length text.toList with
  | some (content, []) => some content
  | _ => none

/-! ### Bare characters -/

theorem isBare_iff {c : Char} :
    isBare c = true ↔ isBlank c = false ∧ c ≠ ',' ∧ c ≠ ':' ∧ c ≠ '\x7b' ∧ c ≠ '\x7d' ∧ c ≠ '[' ∧
      c ≠ ']' := by
  simp [isBare, and_assoc]

theorem toNat_of_isAlphanum {c : Char} (h : c.isAlphanum = true) :
    48 ≤ c.toNat ∧ c.toNat ≤ 122 := by
  unfold Char.isAlphanum Char.isAlpha Char.isUpper Char.isLower Char.isDigit at h
  simp only [Bool.or_eq_true, Bool.and_eq_true, decide_eq_true_eq, UInt32.le_iff_toNat_le,
    ge_iff_le] at h
  have ranges : (65 ≤ c.toNat ∧ c.toNat ≤ 90 ∨ 97 ≤ c.toNat ∧ c.toNat ≤ 122) ∨
      48 ≤ c.toNat ∧ c.toNat ≤ 57 := h
  omega

theorem isBare_of_isAlphanum {c : Char} (h : c.isAlphanum = true) : isBare c = true := by
  have blank : isBlank c = false := by
    have range := toNat_of_isAlphanum h
    simp [isBlank]
    omega
  rw [isBare_iff]
  refine ⟨blank, ?_, ?_, ?_, ?_, ?_, ?_⟩ <;> rintro rfl <;> revert h <;> decide

/-! ### Symbols and blanks -/

theorem dropWhile_space (cs : List Char) :
    (' ' :: cs).dropWhile isBlank = cs.dropWhile isBlank :=
  List.dropWhile_cons_of_pos (by decide)

theorem dropWhile_cons {c : Char} (h : isBlank c = false) (cs : List Char) :
    (c :: cs).dropWhile isBlank = c :: cs :=
  List.dropWhile_cons_of_neg (by simp [h])

theorem symbol?_space (symbol : Char) (cs : List Char) :
    symbol? symbol (' ' :: cs) = symbol? symbol cs := by
  rw [symbol?, dropWhile_space, symbol?]

theorem symbol?_cons {c : Char} (h : isBlank c = false) (symbol : Char) (cs : List Char) :
    symbol? symbol (c :: cs) = if c = symbol then some cs else none := by
  rw [symbol?, dropWhile_cons h]

theorem key?_space (cs : List Char) : key? (' ' :: cs) = key? cs := by
  rw [key?, dropWhile_space, key?]

theorem readWithin_space (steps : Nat) (cs : List Char) :
    readWithin steps (' ' :: cs) = readWithin steps cs := by
  cases steps with
  | zero => rfl
  | succ steps => rw [readWithin, readWithin, dropWhile_space]

/-! ### Literals and words -/

/-- Before a blank, the text is read as the content. -/
def Reads (text : String) (content : Content) : Prop :=
  ∀ steps rest, text.length ≤ steps →
    readWithin steps (text.toList ++ ' ' :: rest) = some (content, ' ' :: rest)

/-- A text that can stand on its own: all its characters are bare, and it does not open a
literal. -/
structure IsWord (text : String) : Prop where
  nonempty : text ≠ ""
  bare : ∀ c ∈ text.toList, isBare c = true
  unquoted : IsUnquoted text

instance (text : String) : Decidable (IsWord text) :=
  decidable_of_iff (text ≠ "" ∧ text.toList.all isBare = true ∧ IsUnquoted text)
    ⟨fun ⟨nonempty, bare, unquoted⟩ => ⟨nonempty, List.all_eq_true.mp bare, unquoted⟩,
      fun h => ⟨h.nonempty, List.all_eq_true.mpr h.bare, h.unquoted⟩⟩

theorem IsWord.exists_cons {text : String} (h : IsWord text) :
    ∃ c cs, text.toList = c :: cs ∧ isBare c = true ∧ c ≠ '"' ∧ ∀ d ∈ cs, isBare d = true := by
  cases chars : text.toList with
  | nil => exact absurd (String.toList_eq_nil_iff.mp chars) h.nonempty
  | cons c cs =>
    have bare := h.bare
    rw [chars] at bare
    refine ⟨c, cs, rfl, bare c List.mem_cons_self, ?_, fun d mem => bare d (.tail c mem)⟩
    exact (h.unquoted c (by rw [chars]; exact List.mem_cons_self)).1

theorem takeWhile_isBare {cs : List Char} (h : ∀ c ∈ cs, isBare c = true) {d : Char}
    (stop : isBare d = false) (rest : List Char) :
    (cs ++ d :: rest).takeWhile isBare = cs := by
  rw [List.takeWhile_append_of_pos h, List.takeWhile_cons_of_neg (by simp [stop]), List.append_nil]

theorem dropWhile_isBare {cs : List Char} (h : ∀ c ∈ cs, isBare c = true) {d : Char}
    (stop : isBare d = false) (rest : List Char) :
    (cs ++ d :: rest).dropWhile isBare = d :: rest := by
  rw [List.dropWhile_append_of_pos h, List.dropWhile_cons_of_neg (by simp [stop])]

theorem Reads.word {text : String} (h : IsWord text) : Reads text (.word text) := by
  intro steps rest enough
  obtain ⟨c, cs, chars, bare, quote, others⟩ := h.exists_cons
  obtain ⟨blank, -, -, brace, -⟩ := isBare_iff.mp bare
  have space : isBare ' ' = false := by decide
  have whole : String.ofList (c :: cs) = text := by rw [← chars, String.ofList_toList]
  cases steps with
  | zero =>
    rw [← String.length_toList, chars] at enough
    cases enough
  | succ steps =>
    rw [chars, List.cons_append, readWithin, dropWhile_cons blank]
    simp [brace, quote, bare, takeWhile_isBare others space, dropWhile_isBare others space, whole]

theorem Reads.inQuotes {written : String} {body : List Char}
    (h : Decodes '"' '\\' written.toList body) :
    Reads (inQuotes written) (.text (String.ofList body)) := by
  intro steps rest enough
  have text : (Text.inQuotes written).toList ++ ' ' :: rest =
      '"' :: (written.toList ++ '"' :: ' ' :: rest) := by
    simp [Text.inQuotes]
  have quote : isBlank '"' = false := by decide
  cases steps with
  | zero => simp [Text.inQuotes] at enough
  | succ steps =>
    rw [text, readWithin, dropWhile_cons quote]
    simp [h.readLiteral_eq]

/-! ### Objects of one member -/

/-- Behind the blank that follows a brace, the text and its colon are read as a key. -/
def ReadsKey (text name : String) : Prop :=
  ∀ rest, symbol? '\x7d' (text.toList ++ ':' :: rest) = none ∧
    key? (text.toList ++ ':' :: rest) = some (name, rest)

theorem ReadsKey.word {name : String} (h : IsWord name) : ReadsKey name name := by
  intro rest
  obtain ⟨c, cs, chars, bare, quote, others⟩ := h.exists_cons
  obtain ⟨blank, -, -, -, brace, -⟩ := isBare_iff.mp bare
  have colon : isBare ':' = false := by decide
  have whole : String.ofList (c :: cs) = name := by rw [← chars, String.ofList_toList]
  rw [chars, List.cons_append]
  constructor
  · rw [symbol?_cons blank, if_neg brace]
  · rw [key?, dropWhile_cons blank]
    simp [quote, bare, takeWhile_isBare others colon, dropWhile_isBare others colon, behindColon?,
      whole]

theorem ReadsKey.inQuotes {name : String} (h : IsUnquoted name) :
    ReadsKey (inQuotes name) name := by
  intro rest
  have text : (Text.inQuotes name).toList ++ ':' :: rest =
      '"' :: (name.toList ++ '"' :: ':' :: rest) := by
    simp [Text.inQuotes]
  have quote : isBlank '"' = false := by decide
  rw [text]
  constructor
  · rw [symbol?_cons quote]
    rfl
  · rw [key?, dropWhile_cons quote]
    simp [(Decodes.self h).readLiteral_eq, behindColon?]

/-- An object of one member is read as such, whatever follows it. -/
theorem readWithin_member {key name value : String} {content : Content} (hkey : ReadsKey key name)
    (hvalue : Reads value content) {steps : Nat}
    (enough : (braced (member key value)).length ≤ steps) (rest : List Char) :
    readWithin steps ((braced (member key value)).toList ++ rest) =
      some (.object [(name, content)], rest) := by
  have text : (braced (member key value)).toList ++ rest = '\x7b' :: ' ' ::
      (key.toList ++ ':' :: ' ' :: (value.toList ++ ' ' :: '\x7d' :: rest)) := by
    simp [braced, member]
  have length : value.length + 2 ≤ steps := by
    have colon : ": ".length = 2 := by decide
    simp only [braced, member, String.length_append, colon] at enough
    omega
  obtain ⟨steps, rfl⟩ : ∃ fewer, steps = fewer + 2 := ⟨steps - 2, by omega⟩
  have opening : isBlank '\x7b' = false := by decide
  have closing : isBlank '\x7d' = false := by decide
  obtain ⟨noEnd, readsKey⟩ := hkey (' ' :: (value.toList ++ ' ' :: '\x7d' :: rest))
  have readsValue := hvalue steps ('\x7d' :: rest) (by omega)
  rw [text, readWithin, dropWhile_cons opening]
  simp only [if_true, symbol?_space, noEnd, readMembers, key?_space, readsKey, readWithin_space,
    Option.bind_eq_bind, Option.bind_some, readsValue, symbol?_cons closing]
  rfl

theorem Reads.member {key name value : String} {content : Content} (hkey : ReadsKey key name)
    (hvalue : Reads value content) :
    Reads (braced (member key value)) (.object [(name, content)]) :=
  fun _ rest enough => readWithin_member hkey hvalue enough (' ' :: rest)

theorem read_member {key name value : String} {content : Content} (hkey : ReadsKey key name)
    (hvalue : Reads value content) :
    read (braced (member key value)) = some (.object [(name, content)]) := by
  have whole := readWithin_member hkey hvalue (Nat.le_refl _) []
  rw [List.append_nil] at whole
  rw [read, whole]

/-! ### Keys that are read without quotes -/

/-- The first member of an object has the key that its text starts with. -/
theorem key_of_readMembers {steps : Nat} {cs rest : List Char}
    {members : List (String × Content)} (h : readMembers steps cs = some (members, rest)) :
    ∃ key value others after, members = (key, value) :: others ∧ key? cs = some (key, after) := by
  cases steps with
  | zero => cases h
  | succ steps =>
    rw [readMembers] at h
    obtain ⟨⟨key, after⟩, hkey, h⟩ := Option.bind_eq_some_iff.mp h
    obtain ⟨⟨value, behind⟩, -, h⟩ := Option.bind_eq_some_iff.mp h
    dsimp only at h
    split at h
    · obtain ⟨⟨others, last⟩, -, h⟩ := Option.bind_eq_some_iff.mp h
      cases h
      exact ⟨key, value, others, after, rfl, hkey⟩
    · obtain ⟨last, -, h⟩ := Option.bind_eq_some_iff.mp h
      cases h
      exact ⟨key, value, [], after, rfl, hkey⟩

theorem key_of_readWithin {steps : Nat} {cs rest : List Char} {name : String} {content : Content}
    {others : List (String × Content)}
    (h : readWithin steps ('\x7b' :: cs) = some (.object ((name, content) :: others), rest)) :
    ∃ after, key? cs = some (name, after) := by
  cases steps with
  | zero => cases h
  | succ steps =>
    have opening : isBlank '\x7b' = false := by decide
    rw [readWithin, dropWhile_cons opening] at h
    simp only [if_true] at h
    split at h
    · cases h
    · obtain ⟨⟨members, last⟩, hmembers, h⟩ := Option.bind_eq_some_iff.mp h
      cases h
      obtain ⟨key, value, others, after, same, hkey⟩ := key_of_readMembers hmembers
      cases same
      exact ⟨after, hkey⟩

/-- A key that does not start with a quote is bare. -/
theorem isBare_of_key? {text rest after : List Char} {name : String} (unquoted : '"' ∉ text)
    (h : key? (text ++ ':' :: rest) = some (name, after)) : ∀ c ∈ name.toList, isBare c = true := by
  unfold key? at h
  split at h
  · cases h
  · next c behind start =>
    have first : c ≠ '"' := by
      rintro rfl
      rw [List.dropWhile_append] at start
      split at start
      · cases start
      · next ahead =>
        obtain ⟨d, ahead, inside⟩ : ∃ d ahead, text.dropWhile isBlank = d :: ahead :=
          List.exists_cons_of_ne_nil (by simpa using ahead)
        rw [inside] at start
        cases start
        exact unquoted ((List.dropWhile_sublist _).subset (inside ▸ List.mem_cons_self))
    rw [if_neg first] at h
    obtain ⟨_, -, h⟩ := Option.bind_eq_some_iff.mp h
    cases h
    intro d mem
    rw [String.toList_ofList] at mem
    exact List.all_eq_true.mp List.all_takeWhile d mem

end DetectionQuery.Query.Object
