import DetectionQuery.Proofs.Query.Literal
import DetectionQuery.Query.Fragment
import Mathlib.Data.List.Forall2

/-!
Reading query documents.

`Document.read` reads the document that a text starts with and returns what stands behind it. An
object whose only key is a group operator with a list is a group; any other object is a fragment and
is kept as it is written. Blanks may stand between symbols, and brackets and commas inside quotes do
not count.

`ReadsAs text document` says that `text` is read as `document` whatever follows it. It holds of
every fragment (`ReadsAs.fragment`) and passes from the members of a group to the group
(`ReadsAs.group`).
-/

namespace DetectionQuery.Query

open DetectionQuery.Text

/-- How many members of a group have to hold. -/
inductive Operator where
  | all
  | any
  | none
deriving DecidableEq, Repr

def Operator.token : Operator → String
  | .all => "$and"
  | .any => "$or"
  | .none => "$nor"

def Operator.ofToken? (token : String) : Option Operator :=
  [Operator.all, .any, .none].find? (·.token = token)

/-- The truth of a group from the truth of its members. -/
def Operator.holds : Operator → List Bool → Bool
  | .all, members => members.all id
  | .any, members => members.any id
  | .none, members => !members.any id

/-- A query document. -/
inductive Document where
  | group (operator : Operator) (members : List Document)
  | fragment (text : String)
deriving Repr

namespace Document

mutual

/-- Whether a document holds when its fragments have the given truth values. -/
def holds (assign : String → Bool) : Document → Bool
  | .group operator members => operator.holds (truths assign members)
  | .fragment text => assign text

def truths (assign : String → Bool) : List Document → List Bool
  | [] => []
  | member :: rest => member.holds assign :: truths assign rest

end

/-- What stands behind a symbol and the blanks before it. -/
def symbol? (symbol : Char) (cs : List Char) : Option (List Char) :=
  match cs.dropWhile Char.isWhitespace with
  | [] => none
  | c :: rest => if c = symbol then some rest else none

/-- The operator of a group, with what stands behind the bracket that opens its members. -/
def groupStart? (cs : List Char) : Option (Operator × List Char) := do
  let rest ← symbol? '\x7b' cs
  let rest ← symbol? '"' rest
  let (key, rest) ← readLiteral '"' '\\' rest
  let operator ← Operator.ofToken? (String.ofList key)
  let rest ← symbol? ':' rest
  let rest ← symbol? '[' rest
  return (operator, rest)

/-- An object as it is written, with what stands behind it. -/
def object? (cs : List Char) : Option (String × List Char) :=
  match cs.dropWhile Char.isWhitespace with
  | '\x7b' :: rest => do
    let (object, after) ← Nesting.cut ('\x7b' :: rest)
    return (String.ofList object, after)
  | _ => none

mutual

/-- Reads a document in at most `steps` nested readings. -/
def readWithin : Nat → List Char → Option (Document × List Char)
  | 0, _ => none
  | steps + 1, cs =>
    match groupStart? cs with
    | some (operator, rest) => do
      let (members, rest) ← readMembers steps rest
      let rest ← symbol? '\x7d' rest
      return (.group operator members, rest)
    | none => do
      let (object, rest) ← object? cs
      return (.fragment object, rest)

/-- Reads the members of a group up to the bracket that closes them. -/
def readMembers : Nat → List Char → Option (List Document × List Char)
  | 0, _ => none
  | steps + 1, cs =>
    match symbol? ']' cs with
    | some rest => some ([], rest)
    | none => do
      let (member, rest) ← readWithin steps cs
      match symbol? ',' rest with
      | some rest => do
        let (members, rest) ← readMembers steps rest
        return (member :: members, rest)
      | none => do
        let rest ← symbol? ']' rest
        return ([member], rest)

end

/-- Reads the document that a text starts with. -/
def read (cs : List Char) : Option (Document × List Char) :=
  readWithin cs.length cs

/-! ### Symbols and blanks -/

@[simp] theorem symbol?_space (symbol : Char) (cs : List Char) :
    symbol? symbol (' ' :: cs) = symbol? symbol cs := by
  simp [symbol?, Char.isWhitespace]

theorem symbol?_cons {c : Char} (h : c.isWhitespace = false) (symbol : Char) (cs : List Char) :
    symbol? symbol (c :: cs) = if c = symbol then some cs else none := by
  simp [symbol?, h]

theorem groupStart?_space (cs : List Char) : groupStart? (' ' :: cs) = groupStart? cs := by
  simp only [groupStart?, symbol?_space]

theorem object?_space (cs : List Char) : object? (' ' :: cs) = object? cs := by
  simp [object?, Char.isWhitespace]

theorem readWithin_space (steps : Nat) (cs : List Char) :
    readWithin steps (' ' :: cs) = readWithin steps cs := by
  cases steps with
  | zero => rfl
  | succ steps => rw [readWithin, readWithin, groupStart?_space, object?_space]

theorem readMembers_space (steps : Nat) (cs : List Char) :
    readMembers steps (' ' :: cs) = readMembers steps cs := by
  cases steps with
  | zero => rfl
  | succ steps => rw [readMembers, readMembers, symbol?_space, readWithin_space]

/-! ### Group starts -/

theorem groupStart?_token (operator : Operator) (rest : List Char) :
    groupStart? ('\x7b' :: ' ' :: '"' ::
      (operator.token.toList ++ '"' :: ':' :: ' ' :: '[' :: rest)) = some (operator, rest) := by
  cases operator <;> rfl

/-- A quoted key starts no group if its value is no list. -/
theorem groupStart?_quoted {key : String} (hkey : IsUnquoted key) {c : Char}
    (blank : c.isWhitespace = false) (bracket : c ≠ '[') (rest : List Char) :
    groupStart? ('\x7b' :: ' ' :: '"' :: (key.toList ++ '"' :: ':' :: ' ' :: c :: rest)) =
      none := by
  have literal : readLiteral '"' '\\' (key.toList ++ '"' :: ':' :: ' ' :: c :: rest) =
      some (key.toList, ':' :: ' ' :: c :: rest) := (Decodes.self hkey).readLiteral_eq _
  have noBracket : symbol? '[' (c :: rest) = none := by
    rw [symbol?_cons blank, if_neg bracket]
  have brace : Char.isWhitespace '\x7b' = false := by decide
  have quote : Char.isWhitespace '"' = false := by decide
  have colon : Char.isWhitespace ':' = false := by decide
  simp [groupStart?, symbol?_cons brace, symbol?_cons quote, symbol?_cons colon, literal, noBracket]

/-- A bare key starts no group. -/
theorem groupStart?_bare {c : Char} (blank : c.isWhitespace = false) (quote : c ≠ '"')
    (rest : List Char) : groupStart? ('\x7b' :: ' ' :: c :: rest) = none := by
  have brace : Char.isWhitespace '\x7b' = false := by decide
  simp [groupStart?, symbol?_cons brace, symbol?_cons blank, quote]

/-! ### Texts that are read as a document -/

/-- The text is an object and is read as the document, whatever follows it. -/
structure ReadsAs (text : String) (document : Document) : Prop where
  opens : ∃ rest, text.toList = '\x7b' :: rest
  reads : ∀ steps rest, text.length ≤ steps →
    readWithin steps (text.toList ++ rest) = some (document, rest)

/-- An object is read as a fragment unless it starts a group. -/
theorem ReadsAs.fragment {body : String} (passes : Passes .outside body)
    (single : ∀ rest, groupStart? ((braced body).toList ++ rest) = none) :
    ReadsAs (braced body) (.fragment (braced body)) := by
  have opens : (braced body).toList = '\x7b' :: ' ' :: (body.toList ++ [' ', '\x7d']) := by
    simp [braced]
  refine ⟨⟨_, opens⟩, fun steps rest enough => ?_⟩
  have cut := Nesting.cut_braced passes rest
  have object : object? ((braced body).toList ++ rest) = some (braced body, rest) := by
    rw [opens, List.cons_append] at cut ⊢
    have brace : Char.isWhitespace '\x7b' = false := by decide
    simp only [object?, List.dropWhile_cons, brace, Bool.false_eq_true, if_false, cut]
    rw [← opens]
    simp
  cases steps with
  | zero =>
    have empty : (braced body).length = 0 := Nat.le_zero.mp enough
    rw [← String.length_toList, opens] at empty
    cases empty
  | succ steps =>
    rw [readWithin, single]
    simp [object]

/-- Members joined by commas are read one by one. -/
theorem readMembers_joined {texts : List String} {documents : List Document}
    (h : List.Forall₂ ReadsAs texts documents) (steps : Nat) (rest : List Char)
    (enough : (joined ", " texts).length < steps) :
    readMembers steps ((joined ", " texts).toList ++ ' ' :: ']' :: rest) =
      some (documents, rest) := by
  have bracket : Char.isWhitespace ']' = false := by decide
  have brace : Char.isWhitespace '\x7b' = false := by decide
  have comma : Char.isWhitespace ',' = false := by decide
  have notEnd {text : String} {document : Document} (head : ReadsAs text document)
      (after : List Char) : symbol? ']' (text.toList ++ after) = none := by
    obtain ⟨inner, opens⟩ := head.opens
    rw [opens, List.cons_append, symbol?_cons brace]
    rfl
  obtain ⟨steps, rfl⟩ : ∃ fewer, steps = fewer + 1 := ⟨steps - 1, by omega⟩
  induction h generalizing steps with
  | nil =>
    rw [joined, readMembers]
    simp [symbol?_cons bracket]
  | @cons text document texts documents head tail ih =>
    cases tail with
    | nil =>
      rw [joined] at enough ⊢
      rw [readMembers, notEnd head, head.reads steps _ (by omega)]
      simp [symbol?_cons bracket]
    | @cons next nextDocument texts documents nextHead tail =>
      rw [joined] at enough ⊢
      simp only [String.length_append] at enough
      have separator : ", ".length = 2 := by decide
      obtain ⟨steps, rfl⟩ : ∃ fewer, steps = fewer + 1 := ⟨steps - 1, by omega⟩
      have members := ih steps (by omega)
      have text : (text ++ ", " ++ joined ", " (next :: texts)).toList ++ ' ' :: ']' :: rest =
          text.toList ++ ',' :: ' ' ::
            ((joined ", " (next :: texts)).toList ++ ' ' :: ']' :: rest) := by
        simp
      rw [text, readMembers, notEnd head, head.reads (steps + 1) _ (by omega)]
      simp [symbol?_cons comma, readMembers_space, members]

/-- A group is read as the group of what its members are read as. -/
theorem ReadsAs.group (operator : Operator) {texts : List String} {documents : List Document}
    (h : List.Forall₂ ReadsAs texts documents) :
    ReadsAs (Fragment.group operator.token texts ", ") (.group operator documents) := by
  have text (rest : List Char) : (Fragment.group operator.token texts ", ").toList ++ rest =
      '\x7b' :: ' ' :: '"' :: (operator.token.toList ++ '"' :: ':' :: ' ' :: '[' :: ' ' ::
        ((joined ", " texts).toList ++ ' ' :: ']' :: ' ' :: '\x7d' :: rest)) := by
    simp [Fragment.group, braced, member, inQuotes, bracketed]
  refine ⟨⟨_, by simpa using text []⟩, fun steps rest enough => ?_⟩
  have length :
      (joined ", " texts).length + 1 < (Fragment.group operator.token texts ", ").length := by
    rw [← String.length_toList, ← String.length_toList,
      ← List.append_nil (Fragment.group operator.token texts ", ").toList, text []]
    simp
    omega
  obtain ⟨steps, rfl⟩ : ∃ fewer, steps = fewer + 1 := ⟨steps - 1, by omega⟩
  have members := readMembers_joined h steps (' ' :: '\x7d' :: rest) (by omega)
  have brace : Char.isWhitespace '\x7d' = false := by decide
  rw [text, readWithin, groupStart?_token]
  simp [readMembers_space, members, symbol?_cons brace]

end Document

end DetectionQuery.Query
