import DetectionQuery.Proofs.Outcome
import DetectionQuery.Proofs.Query.Object
import DetectionQuery.Query.Render

/-!
The keys of fragments.

The fragment of a comparison, of a text or of a test for a field is meant as an object whose only
key is the field. Comparisons and texts write the key between quotes, which an accepted name cannot
leave. The tests for a field write it bare, so there the name is read as the key exactly if all its
characters are bare (`renderLeaf_reads_key_iff`); any other name ends the key early and may add keys
of its own (`name_adds_key`).
-/

namespace DetectionQuery.Query

open DetectionQuery.Text Object

/-! ### Numbers are words -/

/-- Whether all characters are among those that numbers are written with. -/
def IsNumeric (text : String) : Prop :=
  ∀ c ∈ text.toList, c.isAlphanum = true ∨ c = '.' ∨ c = '-' ∨ c = '+'

instance (text : String) : Decidable (IsNumeric text) :=
  List.decidableBAll _ text.toList

theorem IsNumeric.append {s t : String} (hs : IsNumeric s) (ht : IsNumeric t) :
    IsNumeric (s ++ t) := by
  intro c mem
  rw [String.toList_append] at mem
  rcases List.mem_append.mp mem with mem | mem
  · exact hs c mem
  · exact ht c mem

theorem isNumeric_ofList {cs : List Char} {n : Nat}
    (h : ∀ c ∈ cs, c = '0' ∨ c ∈ Nat.toDigits 10 n) : IsNumeric (String.ofList cs) := by
  intro c mem
  rw [String.toList_ofList] at mem
  rcases h c mem with rfl | digit
  · exact .inl rfl
  · have digit := Nat.isDigit_of_mem_toDigits (by decide) (by decide) digit
    exact .inl (by simp [Char.isAlphanum, digit])

theorem isNumeric_toText_int (value : Int) : IsNumeric (Number.toText (.int value)) := by
  intro c mem
  rcases mem_toText_int mem with digit | rfl
  · exact .inl digit
  · exact .inr (.inr (.inl rfl))

theorem isNumeric_magnitude (decimal : Decimal) :
    IsNumeric (FloatFormat.query.magnitude decimal) := by
  have point : IsNumeric "." := by decide
  have digits {cs : List Char} (h : ∀ c ∈ cs, c = '0' ∨ c ∈ Nat.toDigits 10 decimal.digits) :
      IsNumeric (String.ofList cs) := isNumeric_ofList h
  have pointed (places : Nat) :
      IsNumeric (FloatFormat.pointed (Nat.toDigits 10 decimal.digits) places) := by
    refine ((digits fun c mem => ?_).append point).append (digits fun c mem => ?_)
    · exact .inr (List.mem_of_mem_take mem)
    · exact .inr (List.mem_of_mem_drop mem)
  unfold FloatFormat.magnitude
  dsimp only
  split
  · refine (digits fun c mem => ?_).append (by decide)
    rcases List.mem_append.mp mem with digit | zero
    · exact .inr digit
    · exact .inl (List.eq_of_mem_replicate zero)
  · split
    · exact pointed _
    · split
      · refine IsNumeric.append (by decide) (digits fun c mem => ?_)
        rcases List.mem_append.mp mem with zero | digit
        · exact .inl (List.eq_of_mem_replicate zero)
        · exact .inr digit
      · have front : IsNumeric (if (Nat.toDigits 10 decimal.digits).length = 1
            then String.ofList (Nat.toDigits 10 decimal.digits)
            else FloatFormat.pointed (Nat.toDigits 10 decimal.digits) 1) := by
          split
          · exact digits fun c mem => .inr mem
          · exact pointed 1
        have mark : IsNumeric "e" := by decide
        have sign (exponent : Int) :
            IsNumeric (if 0 ≤ exponent then FloatFormat.query.positiveSign else "") := by
          split <;> decide
        exact ((front.append mark).append (sign _)).append (isNumeric_toText_int _)

theorem isNumeric_toText (number : Number) : IsNumeric number.toText := by
  cases number with
  | int value => exact isNumeric_toText_int value
  | float value =>
    refine IsNumeric.append ?_ ?_
    · split <;> decide
    · split
      · decide
      · exact isNumeric_magnitude _

theorem magnitude_ne_empty (decimal : Decimal) : FloatFormat.query.magnitude decimal ≠ "" := by
  unfold FloatFormat.magnitude FloatFormat.pointed
  dsimp only
  split
  · simp
  · split
    · simp
    · split <;> simp

theorem toText_ne_empty (number : Number) : number.toText ≠ "" := by
  cases number with
  | int value => exact toText_int_ne_empty value
  | float value =>
    unfold Number.toText FloatFormat.text
    dsimp only
    rw [ne_eq, String.append_eq_empty_iff, not_and]
    intro _
    split
    · decide
    · exact magnitude_ne_empty _

theorem isWord_toText (number : Number) : IsWord number.toText where
  nonempty := toText_ne_empty number
  bare := by
    intro c mem
    rcases isNumeric_toText number c mem with alphanum | rfl | rfl | rfl
    · exact isBare_of_isAlphanum alphanum
    all_goals decide
  unquoted := by
    intro c mem
    rcases isNumeric_toText number c mem with alphanum | rfl | rfl | rfl
    · constructor <;> rintro rfl <;> revert alphanum <;> decide
    all_goals decide

/-! ### Fragments over a field -/

/-- The fragment is one object with one key, which is the field. -/
def HasOnlyKey (fragment field : String) : Prop :=
  ∃ content, Object.read fragment = some (.object [(field, content)])

theorem hasOnlyKey_inQuotes {field value : String} {content : Content} (hfield : IsUnquoted field)
    (hvalue : Reads value content) : HasOnlyKey (braced (member (inQuotes field) value)) field :=
  ⟨content, read_member (.inQuotes hfield) hvalue⟩

theorem hasOnlyKey_fieldRegex {field expression : String} {body : List Char}
    (hfield : IsUnquoted field) (h : Decodes '"' '\\' expression.toList body) :
    HasOnlyKey (Fragment.fieldRegex field Dialect.mongoDB.regexToken expression) field := by
  have token : IsUnquoted Dialect.mongoDB.regexToken := by decide
  exact hasOnlyKey_inQuotes hfield (.member (.inQuotes token) (.inQuotes h))

theorem hasOnlyKey_renderPattern {field : String} (hfield : IsUnquoted field) (pattern : Pattern) :
    HasOnlyKey (Dialect.mongoDB.renderPattern field pattern) field := by
  have escaped := Dialect.decodes_escaped_mongoDB_regex pattern.literal
  unfold Dialect.renderPattern
  cases pattern.shape with
  | contains => exact hasOnlyKey_fieldRegex hfield escaped
  | startsWith =>
    have anchor : Decodes '"' '\\' "^".toList ['^'] := .char (by decide) (by decide)
    have anchored := anchor.append escaped
    rw [← String.toList_append] at anchored
    exact hasOnlyKey_fieldRegex hfield anchored
  | endsWith =>
    have anchor : Decodes '"' '\\' "$".toList ['$'] := .char (by decide) (by decide)
    have anchored := escaped.append anchor
    rw [← String.toList_append] at anchored
    exact hasOnlyKey_fieldRegex hfield anchored
  | equals => exact hasOnlyKey_inQuotes hfield (.inQuotes (Dialect.decodes_escaped_mongoDB _))

theorem hasOnlyKey_compare {field : String} (hfield : IsUnquoted field) (comparison : Comparison)
    (number : Number) :
    HasOnlyKey (Fragment.compare field (Dialect.mongoDB.comparisonToken comparison) number.toText)
      field := by
  have token : IsWord (Dialect.mongoDB.comparisonToken comparison) := by
    cases comparison <;> decide
  exact hasOnlyKey_inQuotes hfield (.member (.word token) (.word (isWord_toText number)))

/-- A field that is written bare is read as the key exactly if all its characters are bare. -/
theorem hasOnlyKey_fieldExists_iff {field flag : String} (nonempty : field ≠ "")
    (hfield : IsUnquoted field) (hflag : IsWord flag) :
    HasOnlyKey (Fragment.fieldExists field flag) field ↔
      ∀ c ∈ field.toList, isBare c = true := by
  constructor
  · rintro ⟨content, h⟩
    have text : (Fragment.fieldExists field flag).toList = '\x7b' :: ' ' :: (field.toList ++ ':' ::
        ' ' :: ((braced (member (inQuotes "$exists") flag)).toList ++ [' ', '\x7d'])) := by
      simp [Fragment.fieldExists, braced, member]
    rw [Object.read] at h
    split at h
    · next found whole =>
      cases h
      rw [text] at whole
      obtain ⟨after, key⟩ := key_of_readWithin whole
      rw [key?_space] at key
      exact isBare_of_key? (fun mem => (hfield _ mem).1 rfl) key
    · cases h
  · intro bare
    have name : IsWord field := ⟨nonempty, bare, hfield⟩
    have key : ReadsKey (inQuotes "$exists") "$exists" := .inQuotes (by decide)
    exact ⟨_, read_member (.word name) (.member key (.word hflag))⟩

/-- The leaves whose fragment is an object over their field: comparisons, texts, expressions and the
tests for a field. -/
inductive Leaf.Over (field : String) : Leaf → Prop where
  | compare (comparison : Comparison) (number : Number) :
      Over field (.compare field comparison number)
  | text (pattern : Pattern) : Over field (.equals (some field) (.text pattern))
  | regex (expression : String) : Over field (.equals (some field) (.regex expression))
  | isNull : Over field (.isNull field)
  | fieldExists (expected : Bool) : Over field (.fieldExists field expected)

/-- Whether a leaf writes its field without quotes. -/
def Leaf.writesBare : Leaf → Bool
  | .isNull _ => true
  | .fieldExists _ _ => true
  | _ => false

/-- **Accepted names as keys.** Every leaf over a name that is accepted can be written. If it writes
the name between quotes, its fragment is one object with the name as its only key; if it writes the
name bare, then it is so exactly if all characters of the name are bare. -/
theorem renderLeaf_reads_key_iff {field name : String} {leaf : Leaf}
    (accepted : Dialect.mongoDB.fieldName field = .ok name) (onField : leaf.Over field) :
    ∃ fragment, Dialect.mongoDB.renderLeaf leaf = .ok fragment ∧
      (HasOnlyKey fragment field ↔
        (leaf.writesBare = true → ∀ c ∈ field.toList, isBare c = true)) := by
  obtain ⟨rfl, nonempty, unquoted⟩ := Dialect.fieldName_mongoDB accepted
  have always {fragment : String} (h : HasOnlyKey fragment name) :
      HasOnlyKey fragment name ↔ (false = true → ∀ c ∈ name.toList, isBare c = true) :=
    iff_of_true h nofun
  have ifBare {fragment : String}
      (h : HasOnlyKey fragment name ↔ ∀ c ∈ name.toList, isBare c = true) :
      HasOnlyKey fragment name ↔ (true = true → ∀ c ∈ name.toList, isBare c = true) :=
    h.trans ⟨fun bare _ => bare, fun bare => bare rfl⟩
  cases onField with
  | compare comparison number =>
    refine ⟨_, ?_, always (hasOnlyKey_compare unquoted comparison number)⟩
    rw [Dialect.renderLeaf, accepted]
    rfl
  | text pattern =>
    refine ⟨_, ?_, always (hasOnlyKey_renderPattern unquoted pattern)⟩
    rw [Dialect.renderLeaf, Dialect.renderEquals, accepted]
    rfl
  | regex expression =>
    have escaped := Dialect.decodes_escaped_mongoDB_regex expression
    refine ⟨_, ?_, always (hasOnlyKey_fieldRegex unquoted escaped)⟩
    rw [Dialect.renderLeaf, Dialect.renderEquals, accepted]
    rfl
  | isNull =>
    have flag : IsWord "false" := by decide
    refine ⟨_, ?_, ifBare (hasOnlyKey_fieldExists_iff nonempty unquoted flag)⟩
    rw [Dialect.renderLeaf, accepted]
    rfl
  | fieldExists expected =>
    have flag : IsWord (Dialect.mongoDB.boolToken expected) := by cases expected <;> decide
    refine ⟨_, ?_, ifBare (hasOnlyKey_fieldExists_iff nonempty unquoted flag)⟩
    rw [Dialect.renderLeaf, accepted]
    rfl

theorem renderLeaf_reads_key_iff_separators :
    (∃ fragment, Dialect.mongoDB.renderLeaf (.compare "a: 1, b" .lt (.int (-3))) =
      .ok fragment ∧ HasOnlyKey fragment "a: 1, b") ∧
    ∃ fragment, Dialect.mongoDB.renderLeaf (.isNull "user.name") = .ok fragment ∧
      HasOnlyKey fragment "user.name" := by
  constructor
  · have accepted : Dialect.mongoDB.fieldName "a: 1, b" = .ok "a: 1, b" := rfl
    obtain ⟨fragment, written, key⟩ :=
      renderLeaf_reads_key_iff accepted (.compare .lt (.int (-3)))
    exact ⟨fragment, written, key.mpr nofun⟩
  · have accepted : Dialect.mongoDB.fieldName "user.name" = .ok "user.name" := rfl
    obtain ⟨fragment, written, key⟩ := renderLeaf_reads_key_iff accepted .isNull
    have bare : "user.name".toList.all isBare = true := by decide
    exact ⟨fragment, written, key.mpr fun _ => List.all_eq_true.mp bare⟩

/-- An accepted name that is written bare can add a key to the object. -/
theorem name_adds_key :
    ∃ fragment, Dialect.mongoDB.fieldName "a: 1, b" = .ok "a: 1, b" ∧
      Dialect.mongoDB.renderLeaf (.isNull "a: 1, b") = .ok fragment ∧
      Object.read fragment =
        some (.object [("a", .word "1"), ("b", .object [("$exists", .word "false")])]) ∧
      ¬ HasOnlyKey fragment "a: 1, b" := by
  have read : Object.read (Fragment.isNull "a: 1, b") =
      some (.object [("a", .word "1"), ("b", .object [("$exists", .word "false")])]) := by
    cbv
  refine ⟨Fragment.isNull "a: 1, b", rfl, rfl, read, ?_⟩
  rintro ⟨content, only⟩
  rw [read] at only
  simp at only

end DetectionQuery.Query
