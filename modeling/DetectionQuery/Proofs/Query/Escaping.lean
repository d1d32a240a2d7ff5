import DetectionQuery.Proofs.Query.Literal

/-!
Escaping and its inverse.

`shield` puts an escape before the characters of a text that are special, and `unshield?` takes such
a layer away again. A text that is escaped for a place between quotes has one layer, which the
reader of literals removes (`decodes_escaped`). A text that is escaped for a regular expression has
a second one below it; what the reader is left with is the text with this layer, and removing it as
well gives the text (`unshield?_flatMap_shieldedChar`).

Neither layer can end the literal early, whatever stands behind the closing quote
(`escaped_reads_back`).
-/

namespace DetectionQuery

namespace Text

/-- The characters with an escape before each that is special. -/
def shield (escape : Char) (special : Char → Prop) [DecidablePred special] (cs : List Char) :
    List Char :=
  cs.flatMap fun c => if special c then [escape, c] else [c]

/-- The characters without one layer of escapes: each escape stands for the character behind it. An
escape with nothing behind it is refused. -/
def unshield? (escape : Char) : List Char → Option (List Char)
  | [] => some []
  | c :: rest =>
    if c = escape then
      match rest with
      | [] => none
      | shielded :: rest => (unshield? escape rest).map (shielded :: ·)
    else (unshield? escape rest).map (c :: ·)

variable {escape : Char}

theorem unshield?_escape (c : Char) (rest : List Char) :
    unshield? escape (escape :: c :: rest) = (unshield? escape rest).map (c :: ·) := by
  simp [unshield?]

theorem unshield?_cons {c : Char} (h : c ≠ escape) (rest : List Char) :
    unshield? escape (c :: rest) = (unshield? escape rest).map (c :: ·) := by
  cases rest <;> simp [unshield?, h]

end Text

namespace Query.Dialect

open DetectionQuery.Text

variable {dialect : Dialect}

/-- The characters that stand for themselves in a regular expression only behind an escape. -/
def IsSpecial (dialect : Dialect) (c : Char) : Prop :=
  c = dialect.escape ∨ c ∈ dialect.regexSpecial.toList

instance (dialect : Dialect) : DecidablePred dialect.IsSpecial :=
  fun c => inferInstanceAs (Decidable (c = dialect.escape ∨ c ∈ dialect.regexSpecial.toList))

/-! ### The layer of a regular expression -/

/-- The escape is put before special characters only. A quote is left alone, since it has an escape
in the other layer. -/
theorem shieldedChar_eq (unquoted : dialect.quote ∉ dialect.regexSpecial.toList) (c : Char) :
    dialect.shieldedChar c = if dialect.IsSpecial c then [dialect.escape, c] else [c] := by
  unfold shieldedChar IsSpecial
  by_cases escape : c = dialect.escape
  · simp [escape]
  · by_cases quote : c = dialect.quote
    · subst quote
      simp [escape, unquoted]
    · simp [escape, quote]

theorem flatMap_shieldedChar (unquoted : dialect.quote ∉ dialect.regexSpecial.toList)
    (cs : List Char) :
    cs.flatMap dialect.shieldedChar = shield dialect.escape dialect.IsSpecial cs := by
  apply List.flatMap_congr
  intro c _
  exact shieldedChar_eq unquoted c

/-- One character is recovered, and what follows it is read on its own. The escape itself always has
an escape before it, so the two are never taken for the start of another pair. -/
theorem unshield?_shieldedChar (c : Char) (rest : List Char) :
    unshield? dialect.escape (dialect.shieldedChar c ++ rest) =
      (unshield? dialect.escape rest).map (c :: ·) := by
  unfold shieldedChar
  by_cases escape : c = dialect.escape
  · rw [if_pos escape]
    exact unshield?_escape c rest
  · rw [if_neg escape]
    split
    · exact unshield?_cons escape rest
    · split
      · exact unshield?_escape c rest
      · exact unshield?_cons escape rest

theorem unshield?_flatMap_shieldedChar (cs : List Char) :
    unshield? dialect.escape (cs.flatMap dialect.shieldedChar) = some cs := by
  induction cs with
  | nil => rfl
  | cons c cs ih => rw [List.flatMap_cons, unshield?_shieldedChar, ih, Option.map_some]

/-! ### Reading back -/

/-- **Escaping can be undone and keeps the literal open.** A reader of literals that is given an
escaped text, a quote and anything behind it stops at this quote. It has read the text, or for a
regular expression the text with one more layer of escapes: removing that layer gives the text, and
if the quote is not itself special, the layer is an escape before each special character. -/
theorem escaped_reads_back (distinct : dialect.escape ≠ dialect.quote) (text : String)
    (rest : List Char) :
    readLiteral dialect.quote dialect.escape
        ((dialect.escaped false text).toList ++ dialect.quote :: rest) =
      some (text.toList, rest) ∧
    ∃ read, readLiteral dialect.quote dialect.escape
          ((dialect.escaped true text).toList ++ dialect.quote :: rest) = some (read, rest) ∧
      unshield? dialect.escape read = some text.toList ∧
      (dialect.quote ∉ dialect.regexSpecial.toList →
        read = shield dialect.escape dialect.IsSpecial text.toList) := by
  have plain := (decodes_escaped distinct text).readLiteral_eq rest
  have regex := (decodes_escaped_regex distinct text).readLiteral_eq rest
  refine ⟨plain, _, regex, unshield?_flatMap_shieldedChar text.toList, ?_⟩
  intro unquoted
  exact flatMap_shieldedChar unquoted text.toList

/-- A dialect whose escape has a meaning in regular expressions as well. -/
def caret : Dialect :=
  { mongoDB with quote := '/', escape := '^' }

/-- The text holds the escape, the quote and a special character, and what follows the closing quote
is another quote and an escape. -/
theorem escaped_reads_back_caret :
    caret.escape ≠ caret.quote ∧ caret.escape ∈ caret.regexSpecial.toList ∧
    caret.quote ∉ caret.regexSpecial.toList ∧
    readLiteral '/' '^' ((caret.escaped false "^/.a").toList ++ ['/', '/', '^']) =
      some (['^', '/', '.', 'a'], ['/', '^']) ∧
    readLiteral '/' '^' ((caret.escaped true "^/.a").toList ++ ['/', '/', '^']) =
      some (['^', '^', '/', '^', '.', 'a'], ['/', '^']) := by
  have distinct : caret.escape ≠ caret.quote := by decide
  have unquoted : caret.quote ∉ caret.regexSpecial.toList := by decide
  obtain ⟨plain, read, regex, -, layer⟩ := escaped_reads_back distinct "^/.a" ['/', '^']
  refine ⟨distinct, by decide, unquoted, plain, ?_⟩
  rw [layer unquoted] at regex
  exact regex

end Query.Dialect

end DetectionQuery
