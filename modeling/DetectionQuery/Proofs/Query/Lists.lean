import DetectionQuery.Proofs.Query.Object
import DetectionQuery.Proofs.Text.Digits
import Mathlib.Data.List.Forall2

/-!
Reading the lists of a query.

`Listing.read` reads the value at the start of a text, which is a list, a literal between quotes, an
integer or a truth value, and gives back the rest of the text. `Reads text value` means that `text`
is read as `value` wherever no digit follows; a digit would make an integer longer. Inside a list a
member is followed by a comma or a blank, so this passes from the members to the list
(`Reads.list`), however deep lists stand in each other.

Lists and expansions are written alike (`Value.listed`), and so are texts with and without wildcards
(`Value.marked`). A value is therefore read with lists in the place of its expansions and with `*`
and `?` as wildcards in its texts; besides that its text leaves nothing open (`literal_reads_back`).
-/

namespace DetectionQuery.Query

open DetectionQuery.Text

/-! ### Values made anew -/

namespace Value

mutual

/-- The value with its texts changed and its expansions put together in another way. -/
def rebuilt (texts : Pattern → Pattern) (gather : List Value → Value) : Value → Value
  | .text pattern => .text (texts pattern)
  | .bool value => .bool value
  | .number value => .number value
  | .regex expression => .regex expression
  | .list values => .list (rebuiltAll texts gather values)
  | .expansion values => gather (rebuiltAll texts gather values)
  | .fieldRef field => .fieldRef field

def rebuiltAll (texts : Pattern → Pattern) (gather : List Value → Value) :
    List Value → List Value
  | [] => []
  | value :: rest => value.rebuilt texts gather :: rebuiltAll texts gather rest

end

/-- The value with lists in the place of expansions. -/
def listed (value : Value) : Value :=
  value.rebuilt id .list

/-- The value with `*` and `?` as wildcards in all of its texts. -/
def marked (value : Value) : Value :=
  value.rebuilt (fun pattern => .ofText pattern.text) .expansion

theorem rebuiltAll_eq_map (texts : Pattern → Pattern) (gather : List Value → Value)
    (values : List Value) :
    rebuiltAll texts gather values = values.map (rebuilt texts gather) := by
  induction values with
  | nil => rfl
  | cons value rest ih => rw [rebuiltAll, ih, List.map_cons]

/-- What is made anew keeps its characters: those of each text, and those of each expansion. -/
structure KeepsWriting (dialect : Dialect) (texts : Pattern → Pattern)
    (gather : List Value → Value) : Prop where
  texts : ∀ pattern, (texts pattern).text = pattern.text
  gather : ∀ values, dialect.literal (gather values) = dialect.literal (.expansion values)

mutual

theorem KeepsWriting.literal_eq {dialect : Dialect} {texts : Pattern → Pattern}
    {gather : List Value → Value} (keeps : KeepsWriting dialect texts gather) (value : Value) :
    dialect.literal (value.rebuilt texts gather) = dialect.literal value := by
  cases value with
  | text pattern => rw [rebuilt, Dialect.literal, Dialect.literal, keeps.texts]
  | list values => rw [rebuilt, Dialect.literal, Dialect.literal, keeps.literals_eq values]
  | expansion values =>
    rw [rebuilt, keeps.gather, Dialect.literal, Dialect.literal, keeps.literals_eq values]
  | _ => rfl

theorem KeepsWriting.literals_eq {dialect : Dialect} {texts : Pattern → Pattern}
    {gather : List Value → Value} (keeps : KeepsWriting dialect texts gather)
    (values : List Value) :
    dialect.literals (rebuiltAll texts gather values) = dialect.literals values := by
  cases values with
  | nil => rfl
  | cons value rest =>
    rw [rebuiltAll, Dialect.literals, Dialect.literals, keeps.literal_eq value,
      keeps.literals_eq rest]

end

theorem literal_listed (dialect : Dialect) (value : Value) :
    dialect.literal value.listed = dialect.literal value :=
  have keeps : KeepsWriting dialect id .list := ⟨fun _ => rfl, fun _ => rfl⟩
  keeps.literal_eq value

theorem literal_marked (dialect : Dialect) (value : Value) :
    dialect.literal value.marked = dialect.literal value :=
  have keeps : KeepsWriting dialect (fun pattern => .ofText pattern.text) .expansion :=
    ⟨fun _ => rfl, fun _ => rfl⟩
  keeps.literal_eq value

end Value

/-! ### The reader -/

namespace Listing

open Object (isBlank symbol? symbol?_space symbol?_cons dropWhile_cons dropWhile_space)

/-- Reads a run of digits, as long as it is. -/
def readNat (cs : List Char) : Option (Nat × List Char) :=
  (readDigits 10 (cs.takeWhile isDigit)).map fun value => (value, cs.dropWhile isDigit)

/-- Reads an integer, with one minus before its digits or none. -/
def readInt : List Char → Option (Int × List Char)
  | '-' :: rest => (readNat rest).map fun (value, rest) => (-(value : Int), rest)
  | cs => (readNat cs).map fun (value, rest) => ((value : Int), rest)

/-- Reads a truth value or an integer. -/
def readWord (cs : List Char) : Option (Value × List Char) :=
  match "true".toList.isPrefixOf? cs, "false".toList.isPrefixOf? cs with
  | some rest, _ => some (.bool true, rest)
  | none, some rest => some (.bool false, rest)
  | none, none => (readInt cs).map fun (value, rest) => (.number (.int value), rest)

mutual

/-- Reads a value in at most `steps` nested readings. -/
def readWithin : Nat → List Char → Option (Value × List Char)
  | 0, _ => none
  | steps + 1, cs =>
    match cs.dropWhile isBlank with
    | [] => none
    | c :: rest =>
      if c = '[' then
        match symbol? ']' rest with
        | some rest => some (.list [], rest)
        | none => do
          let (values, rest) ← readMembers steps rest
          return (.list values, rest)
      else if c = '"' then do
        let (text, rest) ← readLiteral '"' '\\' rest
        return (.text (.ofText (String.ofList text)), rest)
      else readWord (c :: rest)

/-- Reads one or more members of a list up to the bracket that closes it. -/
def readMembers : Nat → List Char → Option (List Value × List Char)
  | 0, _ => none
  | steps + 1, cs => do
    let (value, rest) ← readWithin steps cs
    match symbol? ',' rest with
    | some rest => do
      let (values, rest) ← readMembers steps rest
      return (value :: values, rest)
    | none => do
      let rest ← symbol? ']' rest
      return ([value], rest)

end

/-- Reads the value at the start of a text. -/
def read (cs : List Char) : Option (Value × List Char) :=
  readWithin cs.length cs

/-- Where no digit follows, the text is read as the value. -/
def Reads (text : String) (value : Value) : Prop :=
  ∀ steps rest, text.length ≤ steps → rest.head?.any isDigit = false →
    readWithin steps (text.toList ++ rest) = some (value, rest)

theorem Reads.read_eq {text : String} {value : Value} (h : Reads text value) {rest : List Char}
    (stop : rest.head?.any isDigit = false) : read (text.toList ++ rest) = some (value, rest) := by
  refine h _ rest ?_ stop
  rw [List.length_append, String.length_toList]
  exact Nat.le_add_right _ _

/-- A value that is read in one step, whatever the step bound. -/
theorem Reads.of_cons {text : String} {value : Value} {c : Char} {cs : List Char}
    (chars : text.toList = c :: cs)
    (h : ∀ steps rest, rest.head?.any isDigit = false →
      readWithin (steps + 1) (c :: (cs ++ rest)) = some (value, rest)) : Reads text value := by
  intro steps rest enough stop
  rw [← String.length_toList, chars, List.length_cons] at enough
  obtain ⟨steps, rfl⟩ : ∃ fewer, steps = fewer + 1 := ⟨steps - 1, by omega⟩
  rw [chars, List.cons_append]
  exact h steps rest stop

/-! ### Texts, truth values and integers -/

theorem Reads.text {text : String} (h : IsUnquoted text) :
    Reads (inQuotes text) (.text (.ofText text)) := by
  have chars : (inQuotes text).toList = '"' :: (text.toList ++ ['"']) := by simp [inQuotes]
  have quote : isBlank '"' = false := by decide
  refine Reads.of_cons chars ?_
  intro steps rest _
  rw [List.append_assoc, List.singleton_append, readWithin, dropWhile_cons quote]
  simp [(Decodes.self h).readLiteral_eq]

theorem readWithin_word {c : Char} (blank : isBlank c = false) (bracket : c ≠ '[') (quote : c ≠ '"')
    (steps : Nat) (cs : List Char) : readWithin (steps + 1) (c :: cs) = readWord (c :: cs) := by
  rw [readWithin, dropWhile_cons blank]
  simp only [bracket, quote, if_false]

theorem Reads.bool (value : Bool) : Reads (Dialect.mongoDB.boolToken value) (.bool value) := by
  cases value with
  | true =>
    have chars : (Dialect.mongoDB.boolToken true).toList = 't' :: ['r', 'u', 'e'] := rfl
    refine Reads.of_cons chars ?_
    intro steps rest _
    rw [readWithin_word (by decide) (by decide) (by decide)]
    rfl
  | false =>
    have chars : (Dialect.mongoDB.boolToken false).toList = 'f' :: ['a', 'l', 's', 'e'] := rfl
    refine Reads.of_cons chars ?_
    intro steps rest _
    rw [readWithin_word (by decide) (by decide) (by decide)]
    rfl

theorem takeWhile_isDigit {rest : List Char} (stop : rest.head?.any isDigit = false) :
    rest.takeWhile isDigit = [] ∧ rest.dropWhile isDigit = rest := by
  cases rest with
  | nil => exact ⟨rfl, rfl⟩
  | cons c rest =>
    have other : ¬ isDigit c = true := by simpa using stop
    exact ⟨List.takeWhile_cons_of_neg other, List.dropWhile_cons_of_neg other⟩

theorem readNat_toDigits (n : Nat) {rest : List Char} (stop : rest.head?.any isDigit = false) :
    readNat (Nat.toDigits 10 n ++ rest) = some (n, rest) := by
  have digits : ∀ c ∈ Nat.toDigits 10 n, isDigit c = true := fun c => isDigit_of_mem_toDigits
  obtain ⟨none, all⟩ := takeWhile_isDigit stop
  have read : readDigits 10 (Nat.toDigits 10 n) = some n := readDigits_toDigits 0 n
  rw [readNat, List.takeWhile_append_of_pos digits, List.dropWhile_append_of_pos digits, none, all,
    List.append_nil, read, Option.map_some]

/-- A digit or a minus starts none of the other values. -/
theorem ne_of_isDigit {c : Char} (h : isDigit c = true ∨ c = '-') :
    isBlank c = false ∧ c ≠ '[' ∧ c ≠ '"' ∧ 't' ≠ c ∧ 'f' ≠ c := by
  have digits : ∀ digit < 10, isBlank digit.digitChar = false ∧ digit.digitChar ≠ '[' ∧
      digit.digitChar ≠ '"' ∧ 't' ≠ digit.digitChar ∧ 'f' ≠ digit.digitChar := by
    decide
  rcases h with h | rfl
  · obtain ⟨digit, small, rfl⟩ := exists_digitChar h
    exact digits digit small
  · decide

theorem readWithin_int {c : Char} (h : isDigit c = true ∨ c = '-') (steps : Nat)
    (cs : List Char) :
    readWithin (steps + 1) (c :: cs) =
      (readInt (c :: cs)).map fun (value, rest) => (.number (.int value), rest) := by
  obtain ⟨blank, bracket, quote, isTrue, isFalse⟩ := ne_of_isDigit h
  rw [readWithin_word blank bracket quote, readWord]
  simp [List.isPrefixOf?, isTrue, isFalse]

/-- The digits of a number are read as an integer. -/
theorem Reads.ofNat {text : String} {n : Nat} (chars : text.toList = Nat.toDigits 10 n) :
    Reads text (.number (.int n)) := by
  cases digits : Nat.toDigits 10 n with
  | nil => exact absurd digits Nat.toDigits_ne_nil
  | cons c cs =>
    have first : isDigit c = true := isDigit_of_mem_toDigits (digits ▸ List.mem_cons_self)
    refine Reads.of_cons (chars.trans digits) ?_
    intro steps rest stop
    have read := readNat_toDigits n stop
    rw [digits, List.cons_append] at read
    rw [readWithin_int (.inl first), readInt, read]
    · rfl
    · rintro _ same
      cases same
      exact absurd first (by decide)

theorem Reads.neg {text : String} {n : Nat} (chars : text.toList = '-' :: Nat.toDigits 10 n) :
    Reads text (.number (.int (-n))) := by
  refine Reads.of_cons chars ?_
  intro steps rest stop
  rw [readWithin_int (.inr rfl), readInt, readNat_toDigits n stop]
  rfl

theorem Reads.int (value : Int) : Reads (Number.toText (.int value)) (.number (.int value)) := by
  cases value with
  | ofNat n => exact Reads.ofNat Nat.toList_repr
  | negSucc n =>
    have chars : ("-" ++ (n + 1).repr).toList = '-' :: Nat.toDigits 10 (n + 1) := by
      rw [String.toList_append, Nat.toList_repr]
      rfl
    exact Reads.neg chars

/-! ### Lists -/

theorem readWithin_space (steps : Nat) (cs : List Char) :
    readWithin steps (' ' :: cs) = readWithin steps cs := by
  cases steps with
  | zero => rfl
  | succ steps => rw [readWithin, readWithin, dropWhile_space]

theorem readMembers_space (steps : Nat) (cs : List Char) :
    readMembers steps (' ' :: cs) = readMembers steps cs := by
  cases steps with
  | zero => rfl
  | succ steps => rw [readMembers, readMembers, readWithin_space]

/-- A bracket that closes a list starts no value. -/
theorem symbol?_of_readWithin {steps : Nat} {cs rest : List Char} {value : Value}
    (h : readWithin steps cs = some (value, rest)) : symbol? ']' cs = none := by
  cases steps with
  | zero => cases h
  | succ steps =>
    rw [readWithin] at h
    rw [symbol?]
    cases start : cs.dropWhile isBlank with
    | nil => rfl
    | cons c behind =>
      rw [start] at h
      by_cases closing : c = ']'
      · subst closing
        cases h
      · exact if_neg closing

theorem symbol?_of_readMembers {steps : Nat} {cs rest : List Char} {values : List Value}
    (h : readMembers steps cs = some (values, rest)) : symbol? ']' cs = none := by
  cases steps with
  | zero => cases h
  | succ steps =>
    obtain ⟨_, first, _⟩ := Option.bind_eq_some_iff.mp h
    exact symbol?_of_readWithin first

/-- Members joined by commas are read one by one. -/
theorem readMembers_joined {text : String} {value : Value} {texts : List String}
    {values : List Value} (first : Reads text value) (others : List.Forall₂ Reads texts values)
    (steps : Nat) (rest : List Char) (enough : (joined ", " (text :: texts)).length < steps) :
    readMembers steps ((joined ", " (text :: texts)).toList ++ ' ' :: ']' :: rest) =
      some (value :: values, rest) := by
  have bracket : isBlank ']' = false := by decide
  have comma : isBlank ',' = false := by decide
  -- The induction is on the members behind the first; the next of them takes its place.
  induction others generalizing text value steps with
  | nil =>
    obtain ⟨steps, rfl⟩ : ∃ fewer, steps = fewer + 1 := ⟨steps - 1, by omega⟩
    rw [joined] at enough ⊢
    rw [readMembers, first steps _ (by omega) rfl]
    simp [symbol?_space, symbol?_cons bracket]
  | @cons next nextValue texts values nextFirst _ ih =>
    obtain ⟨steps, rfl⟩ : ∃ fewer, steps = fewer + 1 := ⟨steps - 1, by omega⟩
    rw [joined] at enough ⊢
    simp only [String.length_append] at enough
    have separator : ", ".length = 2 := by decide
    have members := ih nextFirst steps (by omega)
    have written : (text ++ ", " ++ joined ", " (next :: texts)).toList ++ ' ' :: ']' :: rest =
        text.toList ++ ',' :: ' ' ::
          ((joined ", " (next :: texts)).toList ++ ' ' :: ']' :: rest) := by
      simp
    rw [written, readMembers, first steps _ (by omega) rfl]
    simp [symbol?_cons comma, readMembers_space, members]

/-- A list is read as the list of what its members are read as. -/
theorem Reads.list {texts : List String} {values : List Value}
    (h : List.Forall₂ Reads texts values) :
    Reads (bracketed (joined ", " texts)) (.list values) := by
  intro steps rest enough _
  have opening : isBlank '[' = false := by decide
  have closing : isBlank ']' = false := by decide
  have written : (bracketed (joined ", " texts)).toList ++ rest =
      '[' :: ' ' :: ((joined ", " texts).toList ++ ' ' :: ']' :: rest) := by
    simp [bracketed]
  have length : (joined ", " texts).length + 2 ≤ steps := by
    have brackets : "[ ".length = 2 ∧ " ]".length = 2 := by decide
    simp only [bracketed, String.length_append, brackets] at enough
    omega
  obtain ⟨steps, rfl⟩ : ∃ fewer, steps = fewer + 1 := ⟨steps - 1, by omega⟩
  rw [written, readWithin, dropWhile_cons opening]
  cases h with
  | nil => simp [joined, symbol?_space, symbol?_cons closing]
  | cons first others =>
    have members := readMembers_joined first others steps rest (by omega)
    simp [symbol?_space, symbol?_of_readMembers members, readMembers_space, members]

theorem reads_literal {value : Value} (h : value.Plain) :
    Reads (Dialect.mongoDB.literal value) value.marked.listed := by
  have members {values : List Value}
      (ih : ∀ value ∈ values, Reads (Dialect.mongoDB.literal value) value.marked.listed) :
      List.Forall₂ Reads (Dialect.mongoDB.literals values)
        (Value.rebuiltAll id .list
          (Value.rebuiltAll (fun pattern => .ofText pattern.text) .expansion values)) := by
    rw [Dialect.literals_eq_map, Value.rebuiltAll_eq_map, Value.rebuiltAll_eq_map, List.map_map,
      List.forall₂_map_left_iff, List.forall₂_map_right_iff, List.forall₂_same]
    exact ih
  induction h with
  | bool value => exact Reads.bool value
  | int value => exact Reads.int value
  | text unquoted =>
    rw [Dialect.literal, Dialect.textLiteral_of_isUnquoted unquoted]
    exact Reads.text unquoted
  | list _ ih => exact Reads.list (members ih)
  | expansion _ ih => exact Reads.list (members ih)

end Listing

/-- **Lists are read back.** A value of truth values, integers and texts that can stand between
quotes, in lists and expansions of any depth, is read from its text with lists in the place of
expansions and with `*` and `?` as wildcards in its texts. What follows is left alone, unless it
starts with a digit. So two such values have the same text exactly if they differ in nothing but
lists and expansions, and in whether their texts have wildcards. -/
theorem literal_reads_back {value : Value} (plain : value.Plain) {rest : List Char}
    (stop : rest.head?.any isDigit = false) :
    Listing.read ((Dialect.mongoDB.literal value).toList ++ rest) =
      some (value.marked.listed, rest) ∧
    ∀ other : Value, other.Plain →
      (Dialect.mongoDB.literal other = Dialect.mongoDB.literal value ↔
        other.marked.listed = value.marked.listed) := by
  have reads := Listing.reads_literal plain
  refine ⟨reads.read_eq stop, ?_⟩
  intro other hother
  constructor
  · intro same
    have read := (Listing.reads_literal hother).read_eq stop
    rw [same, reads.read_eq stop] at read
    exact (congrArg Prod.fst (Option.some.inj read)).symm
  · intro same
    rw [← Value.literal_marked, ← Value.literal_listed, same, Value.literal_listed,
      Value.literal_marked]

/-- A text that looks like the rest of the list, an empty expansion, a negative integer before a
separator, and a text without wildcards, which is read with them, at the end of two lists. -/
theorem literal_reads_back_nested :
    Listing.read ("[ \"1, [ 2 ]\", [  ], -7, [ true, [ \"*\" ] ] ]".toList ++ ['.', '5']) =
      some (.list [.text (.ofText "1, [ 2 ]"), .list [], .number (.int (-7)),
        .list [.bool true, .list [.text (.ofText "*")]]], ['.', '5']) := by
  have written : Dialect.mongoDB.literal (.list [.text (.ofText "1, [ 2 ]"), .expansion [],
      .number (.int (-7)), .list [.bool true, .expansion [.text (.verbatim "*")]]]) =
      "[ \"1, [ 2 ]\", [  ], -7, [ true, [ \"*\" ] ] ]" := by
    decide +kernel
  have last : (Value.list [.bool true, .expansion [.text (.verbatim "*")]]).Plain := by
    have inner : (Value.expansion [.text (.verbatim "*")]).Plain :=
      .expansion (List.forall_mem_singleton.mpr (.text (by decide)))
    exact .list (List.forall_mem_cons.mpr ⟨.bool true, List.forall_mem_singleton.mpr inner⟩)
  have plain : (Value.list [.text (.ofText "1, [ 2 ]"), .expansion [], .number (.int (-7)),
      .list [.bool true, .expansion [.text (.verbatim "*")]]]).Plain := by
    refine .list (List.forall_mem_cons.mpr ⟨.text (by decide), ?_⟩)
    refine List.forall_mem_cons.mpr ⟨.expansion (List.forall_mem_nil _), ?_⟩
    exact List.forall_mem_cons.mpr ⟨.int (-7), List.forall_mem_singleton.mpr last⟩
  have stop : ['.', '5'].head?.any isDigit = false := rfl
  have read := (literal_reads_back plain stop).1
  rw [written] at read
  exact read

/-- **Wildcards are not written.** The text `*` with and without wildcards is written alike, though
neither is a list or an expansion. So no reader gives back every value up to lists and
expansions. -/
theorem wildcards_unwritten :
    (Value.text (.verbatim "*")).Plain ∧ (Value.text (.ofText "*")).Plain ∧
      Dialect.mongoDB.literal (.text (.verbatim "*")) =
        Dialect.mongoDB.literal (.text (.ofText "*")) ∧
      (Value.text (.verbatim "*")).listed ≠ (Value.text (.ofText "*")).listed ∧
      ¬ ∃ reader : List Char → Option (Value × List Char), ∀ value : Value, value.Plain →
        ∀ rest : List Char, rest.head?.any isDigit = false →
          reader ((Dialect.mongoDB.literal value).toList ++ rest) = some (value.listed, rest) := by
  have unquoted : IsUnquoted "*" := by decide
  have verbatim : (Value.text (.verbatim "*")).Plain := .text unquoted
  have marked : (Value.text (.ofText "*")).Plain := .text unquoted
  have alike : Dialect.mongoDB.literal (.text (.verbatim "*")) =
      Dialect.mongoDB.literal (.text (.ofText "*")) := rfl
  have differ : (Value.text (.verbatim "*")).listed ≠ (Value.text (.ofText "*")).listed := by
    intro same
    have patterns : Pattern.verbatim "*" = .ofText "*" := Value.text.inj same
    exact absurd patterns (by decide)
  refine ⟨verbatim, marked, alike, differ, ?_⟩
  rintro ⟨reader, reads⟩
  have first := reads _ verbatim [] rfl
  rw [alike, reads _ marked [] rfl] at first
  exact differ (congrArg Prod.fst (Option.some.inj first)).symm

end DetectionQuery.Query
