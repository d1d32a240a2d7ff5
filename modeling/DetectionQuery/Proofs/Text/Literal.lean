import DetectionQuery.Proofs.Text.Nesting

/-!
Reading quoted literals.

`readLiteral` reads a literal behind its opening quote: the escape character stands for the
character behind it, and the first quote that is not escaped ends the literal. `Decodes` says what a
piece of a literal contributes to the text that is read, whatever follows it; pieces are put
together by `Decodes.append` and `Decodes.flatMap`, and `Decodes.readLiteral_eq` closes the literal.
`literalTexts` takes all the literals out of a longer text.
-/

namespace DetectionQuery.Text

/-- Reads the rest of a literal; `shielded` says that an escape stands directly before it. -/
def readBody (quote escape : Char) (shielded : Bool) : List Char → Option (List Char × List Char)
  | [] => none
  | c :: rest =>
    if shielded then (readBody quote escape false rest).map fun (body, after) => (c :: body, after)
    else if c = quote then some ([], rest)
    else if c = escape then readBody quote escape true rest
    else (readBody quote escape false rest).map fun (body, after) => (c :: body, after)

/-- What one more character does: it ends the literal, shields what comes behind it, or is read. -/
theorem readBody_cases {quote escape c : Char} {shielded : Bool} {cs body after : List Char}
    (h : readBody quote escape shielded (c :: cs) = some (body, after)) :
    (shielded = false ∧ c = quote ∧ body = [] ∧ after = cs) ∨
    (shielded = false ∧ c = escape ∧ readBody quote escape true cs = some (body, after)) ∨
    ∃ more, body = c :: more ∧ readBody quote escape false cs = some (more, after) ∧
      (shielded = true ∨ c ≠ quote ∧ c ≠ escape) := by
  have taken {read : Option (List Char × List Char)}
      (h : read.map (fun (body, after) => (c :: body, after)) = some (body, after)) :
      ∃ more, body = c :: more ∧ read = some (more, after) := by
    obtain ⟨⟨more, behind⟩, hread, same⟩ := Option.map_eq_some_iff.mp h
    cases same
    exact ⟨more, rfl, hread⟩
  rw [readBody] at h
  split at h
  · next shields =>
    obtain ⟨more, body, read⟩ := taken h
    exact .inr (.inr ⟨more, body, read, .inl shields⟩)
  · next bare =>
    have bare : shielded = false := Bool.eq_false_iff.mpr bare
    split at h
    · next ends =>
      cases h
      exact .inl ⟨bare, ends, rfl, rfl⟩
    · next inside =>
      split at h
      · next shields => exact .inr (.inl ⟨bare, shields, h⟩)
      · next plain =>
        obtain ⟨more, body, read⟩ := taken h
        exact .inr (.inr ⟨more, body, read, .inr ⟨inside, plain⟩⟩)

/-- The text of a literal and what follows its closing quote. -/
def readLiteral (quote escape : Char) (cs : List Char) : Option (List Char × List Char) :=
  readBody quote escape false cs

/-- At any place of a literal, reading `written` gives `body`. -/
def Decodes (quote escape : Char) (written body : List Char) : Prop :=
  ∀ rest, readLiteral quote escape (written ++ rest) =
    (readLiteral quote escape rest).map fun (read, after) => (body ++ read, after)

namespace Decodes

variable {quote escape : Char}

theorem nil : Decodes quote escape [] [] := by
  intro rest
  simp

theorem append {written body written' body' : List Char} (h : Decodes quote escape written body)
    (h' : Decodes quote escape written' body') :
    Decodes quote escape (written ++ written') (body ++ body') := by
  intro rest
  rw [List.append_assoc, h, h', Option.map_map]
  simp [Function.comp_def]

theorem flatMap {α : Type} {f g : α → List Char} {items : List α}
    (h : ∀ item ∈ items, Decodes quote escape (f item) (g item)) :
    Decodes quote escape (items.flatMap f) (items.flatMap g) := by
  induction items with
  | nil => exact nil
  | cons item rest ih =>
    rw [List.flatMap_cons, List.flatMap_cons]
    exact append (h item List.mem_cons_self)
      (ih fun other mem => h other (List.mem_cons_of_mem _ mem))

/-- A character without a meaning in literals stands for itself. -/
theorem char {c : Char} (hquote : c ≠ quote) (hescape : c ≠ escape) :
    Decodes quote escape [c] [c] := by
  intro rest
  simp [readLiteral, readBody, hquote, hescape]

/-- An escaped character stands for itself. -/
theorem escaped (h : escape ≠ quote) (c : Char) : Decodes quote escape [escape, c] [c] := by
  intro rest
  simp [readLiteral, readBody, h]

/-- A text without quotes and escapes stands for itself. -/
theorem self {cs : List Char} (h : ∀ c ∈ cs, c ≠ quote ∧ c ≠ escape) :
    Decodes quote escape cs cs := by
  have chars : ∀ c ∈ cs, Decodes quote escape [c] [c] := fun c mem => char (h c mem).1 (h c mem).2
  simpa using flatMap (f := fun c => [c]) (g := fun c => [c]) chars

/-- A decoded piece with a quote behind it is a whole literal. -/
theorem readLiteral_eq {written body : List Char} (h : Decodes quote escape written body)
    (rest : List Char) :
    readLiteral quote escape (written ++ quote :: rest) = some (body, rest) := by
  rw [h]
  simp [readLiteral, readBody]

end Decodes

/-! ### The literals of a text -/

theorem length_of_readBody {quote escape : Char} {shielded : Bool} {cs body after : List Char}
    (h : readBody quote escape shielded cs = some (body, after)) : after.length < cs.length := by
  induction cs generalizing shielded body with
  | nil => cases h
  | cons c rest ih =>
    rw [List.length_cons]
    rcases readBody_cases h with ⟨-, -, -, rfl⟩ | ⟨-, -, h⟩ | ⟨more, -, h, -⟩
    · exact Nat.lt_succ_self _
    · exact Nat.lt_succ_of_lt (ih h)
    · exact Nat.lt_succ_of_lt (ih h)

/-- The texts of all the literals in a text, in order; one that is not closed is left out. -/
def literalTexts (quote escape : Char) : List Char → List (List Char)
  | [] => []
  | c :: rest =>
    if c = quote then
      match h : readLiteral quote escape rest with
      | some (body, after) =>
        have : after.length < rest.length := length_of_readBody h
        body :: literalTexts quote escape after
      | none => []
    else literalTexts quote escape rest
termination_by cs => cs.length

/-- Outside of literals, everything up to the next quote is passed over. -/
theorem literalTexts_outside {quote escape : Char} {before : List Char} (h : quote ∉ before)
    (rest : List Char) :
    literalTexts quote escape (before ++ rest) = literalTexts quote escape rest := by
  induction before with
  | nil => rfl
  | cons c before ih =>
    rw [List.mem_cons, not_or] at h
    rw [List.cons_append, literalTexts, if_neg (Ne.symm h.1), ih h.2]

theorem Decodes.literalTexts_eq {quote escape : Char} {written body : List Char}
    (h : Decodes quote escape written body) (rest : List Char) :
    literalTexts quote escape (quote :: (written ++ quote :: rest)) =
      body :: literalTexts quote escape rest := by
  rw [literalTexts, if_pos rfl]
  split
  · next read after hread =>
    rw [h.readLiteral_eq] at hread
    cases hread
    rfl
  · next unread =>
    rw [h.readLiteral_eq] at unread
    cases unread

/-! ### Literals between double quotes -/

/-- What can be read up to a quote put behind it stays inside quotes throughout. -/
theorem run_of_readBody {shielded : Bool} {written body : List Char}
    (h : readBody '"' '\\' shielded (written ++ ['"']) = some (body, [])) :
    Nesting.run ⟨if shielded then .shielded else .quoted, []⟩ written = some ⟨.quoted, []⟩ := by
  induction written generalizing shielded body with
  | nil =>
    cases shielded with
    | false => rfl
    | true => simp [readBody] at h
  | cons c rest ih =>
    rw [List.cons_append] at h
    rw [Nesting.run_cons]
    rcases readBody_cases h with ⟨-, -, -, early⟩ | ⟨rfl, rfl, read⟩ | ⟨more, -, read, kind⟩
    · simp at early
    · exact ih read
    · rcases kind with rfl | ⟨quote, backslash⟩
      · exact ih read
      · cases shielded with
        | true => exact ih read
        | false => simpa [Nesting.step, quote, backslash] using ih read

/-- What decodes between double quotes passes there. -/
theorem Decodes.passes {text : String} {body : List Char} (h : Decodes '"' '\\' text.toList body) :
    Passes .quoted text :=
  run_of_readBody (h.readLiteral_eq [])

/-- Whether a text can stand between double quotes as it is. -/
def IsUnquoted (text : String) : Prop :=
  ∀ c ∈ text.toList, c ≠ '"' ∧ c ≠ '\\'

instance (text : String) : Decidable (IsUnquoted text) :=
  List.decidableBAll _ text.toList

theorem IsUnquoted.passes {text : String} (h : IsUnquoted text) : Passes .quoted text :=
  (Decodes.self h).passes

end DetectionQuery.Text
