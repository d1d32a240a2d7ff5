import DetectionQuery.Proofs.Text.Literal

/-!
Texts cut at their commas.

`parts` cuts a text at the commas that stand outside all brackets and quotes, and fails where
brackets or quotes do not match. `IsPart` says that a text matches and has no such comma; an object
or a list is a part whatever it holds (`isPart_braced`, `isPart_bracketed`), and so is a literal
that its own text cannot end (`isPart_inQuotes`). Parts that are joined by a comma and a blank are
found again one by one (`splitsInto_joined`).
-/

namespace DetectionQuery.Text

namespace Nesting

/-- The parts with some characters in front of the first. -/
def inFront (cs : List Char) : List (List Char) → List (List Char)
  | [] => []
  | part :: more => (cs ++ part) :: more

/-- The parts of a text between the commas outside of everything, if all that is open is closed. -/
def partsFrom (nesting : Nesting) : List Char → Option (List (List Char))
  | [] => if nesting = start then some [[]] else none
  | c :: rest =>
    if nesting = start ∧ c = ',' then (partsFrom start rest).map ([] :: ·)
    else (nesting.step c).bind fun next => (partsFrom next rest).map (inFront [c])

end Nesting

open Nesting

/-- The parts of a text between its commas outside all brackets and quotes. -/
def parts (text : String) : Option (List String) :=
  (start.partsFrom text.toList).map (List.map String.ofList)

/-- The text is all of one part: what is opened in it is closed, and no comma divides it. -/
def IsPart (text : String) : Prop :=
  start.partsFrom text.toList = some [text.toList]

instance (text : String) : Decidable (IsPart text) :=
  inferInstanceAs (Decidable (_ = _))

/-- Elements of a list as they are cut out of it, each but the first with the blank behind the comma
before it. -/
def spaced : List String → List String
  | [] => []
  | first :: more => first :: more.map (" " ++ ·)

/-- Cutting the text gives the elements, with a blank behind each comma. -/
def SplitsInto (text : String) (elements : List String) : Prop :=
  parts text = some (spaced elements)

instance (text : String) (elements : List String) : Decidable (SplitsInto text elements) :=
  inferInstanceAs (Decidable (_ = _))

namespace Nesting

/-! ### Cutting piece by piece -/

theorem inFront_nil : inFront [] = id := by
  funext found
  cases found <;> rfl

theorem inFront_comp (cs ds : List Char) : inFront cs ∘ inFront ds = inFront (cs ++ ds) := by
  funext found
  cases found with
  | nil => rfl
  | cons part more => simp [inFront]

theorem partsFrom_cons {nesting next : Nesting} {c : Char} (h : nesting.step c = some next)
    (inner : ¬ (nesting = start ∧ c = ',')) (rest : List Char) :
    nesting.partsFrom (c :: rest) = (next.partsFrom rest).map (inFront [c]) := by
  rw [partsFrom, if_neg inner, h, Option.bind_some]

theorem partsFrom_comma (rest : List Char) :
    start.partsFrom (',' :: rest) = (start.partsFrom rest).map ([] :: ·) := by
  rw [partsFrom, if_pos ⟨rfl, rfl⟩]

/-- A text that is one part is the beginning of the first part of what follows it. -/
theorem partsFrom_append {nesting : Nesting} {cs : List Char}
    (h : nesting.partsFrom cs = some [cs]) (rest : List Char) :
    nesting.partsFrom (cs ++ rest) = (start.partsFrom rest).map (inFront cs) := by
  induction cs generalizing nesting with
  | nil =>
    rw [partsFrom] at h
    split at h
    · next same => rw [same, inFront_nil, Option.map_id, List.nil_append, id]
    · cases h
  | cons c cs ih =>
    rw [partsFrom] at h
    split at h
    · obtain ⟨more, -, same⟩ := Option.map_eq_some_iff.mp h
      cases same
    · next inner =>
      obtain ⟨next, hstep, h⟩ := Option.bind_eq_some_iff.mp h
      obtain ⟨more, hmore, same⟩ := Option.map_eq_some_iff.mp h
      cases more with
      | nil => cases same
      | cons part more =>
        cases same
        rw [List.cons_append, partsFrom_cons hstep inner, ih hmore, Option.map_map, inFront_comp,
          List.singleton_append]

/-- With a pair open around a text, no comma divides it. -/
theorem partsFrom_within {place : Place} {pending : List Bracket} {cs : List Char} {last : Nesting}
    (h : run ⟨place, pending⟩ cs = some last) (base : List Bracket) (hbase : base ≠ [])
    (rest : List Char) :
    partsFrom ⟨place, pending ++ base⟩ (cs ++ rest) =
      (partsFrom ⟨last.place, last.pending ++ base⟩ rest).map (inFront cs) := by
  induction cs generalizing place pending with
  | nil =>
    cases h
    rw [inFront_nil, Option.map_id, List.nil_append, id]
  | cons c cs ih =>
    rw [run_cons, Option.bind_eq_some_iff] at h
    obtain ⟨next, hstep, hrun⟩ := h
    have inner : ¬ ((⟨place, pending ++ base⟩ : Nesting) = start ∧ c = ',') := by
      rintro ⟨same, -⟩
      have empty : pending ++ base = [] := congrArg Nesting.pending same
      exact hbase (List.append_eq_nil_iff.mp empty).2
    rw [List.cons_append, partsFrom_cons (step_append hstep base) inner, ih hrun, Option.map_map,
      inFront_comp, List.singleton_append]

/-- What can be cut into parts passes. -/
theorem run_of_partsFrom {nesting : Nesting} {cs : List Char} {found : List (List Char)}
    (h : nesting.partsFrom cs = some found) : nesting.run cs = some start := by
  induction cs generalizing nesting found with
  | nil =>
    rw [partsFrom] at h
    split at h
    · next same => rw [same, run_nil]
    · cases h
  | cons c cs ih =>
    rw [partsFrom] at h
    split at h
    · next same =>
      obtain ⟨more, hmore, -⟩ := Option.map_eq_some_iff.mp h
      rw [same.1, same.2, run_cons]
      exact ih hmore
    · obtain ⟨next, hstep, h⟩ := Option.bind_eq_some_iff.mp h
      obtain ⟨more, hmore, -⟩ := Option.map_eq_some_iff.mp h
      rw [run_cons, hstep, Option.bind_some, ih hmore]

/-- A text that passes is one part between brackets. -/
theorem partsFrom_enclosed {opening closing : Char} {bracket : Bracket} {body : String}
    (opens : start.step opening = some ⟨.outside, [bracket]⟩) (noComma : opening ≠ ',')
    (closes : step ⟨.outside, [bracket]⟩ closing = some start) (h : Passes .outside body) :
    start.partsFrom (opening :: (body.toList ++ [closing])) =
      some [opening :: (body.toList ++ [closing])] := by
  have inside := partsFrom_within h [bracket] (by simp) [closing]
  have last : partsFrom ⟨.outside, [bracket]⟩ [closing] = some [[closing]] := by
    rw [partsFrom_cons closes (fun same => nomatch congrArg Nesting.pending same.1), partsFrom,
      if_pos rfl]
    rfl
  rw [List.nil_append, last] at inside
  rw [partsFrom_cons opens fun same => noComma same.2, inside]
  rfl

end Nesting

namespace IsPart

theorem passes {text : String} (h : IsPart text) : Passes .outside text :=
  run_of_partsFrom h

theorem append {s t : String} (hs : IsPart s) (ht : IsPart t) : IsPart (s ++ t) := by
  unfold IsPart at *
  rw [String.toList_append, partsFrom_append hs, ht]
  rfl

theorem member {key value : String} (hkey : IsPart key) (hvalue : IsPart value) :
    IsPart (member key value) := by
  have colon : IsPart ": " := by decide
  exact (hkey.append colon).append hvalue

end IsPart

theorem isPart_braced {body : String} (h : Passes .outside body) : IsPart (braced body) := by
  have blank : Passes .outside " " := by decide
  have enclosed := partsFrom_enclosed (show start.step '\x7b' = some ⟨.outside, [.brace]⟩ by decide)
    (by decide) (show step ⟨.outside, [.brace]⟩ '\x7d' = some start by decide)
    ((blank.append h).append blank)
  unfold IsPart
  simpa [braced] using enclosed

theorem isPart_bracketed {body : String} (h : Passes .outside body) : IsPart (bracketed body) := by
  have blank : Passes .outside " " := by decide
  have enclosed := partsFrom_enclosed (show start.step '[' = some ⟨.outside, [.square]⟩ by decide)
    (by decide) (show step ⟨.outside, [.square]⟩ ']' = some start by decide)
    ((blank.append h).append blank)
  unfold IsPart
  simpa [bracketed] using enclosed

/-- A text without brackets, quotes and commas is a part. -/
theorem isPart_of_inert {text : String} (h : ∀ c ∈ text.toList, c ≠ ',' ∧ Inert c) :
    IsPart text := by
  unfold IsPart
  generalize text.toList = cs at h ⊢
  induction cs with
  | nil => rfl
  | cons c cs ih =>
    obtain ⟨noComma, quote, opened, closed⟩ := h c List.mem_cons_self
    have stays : start.step c = some start := by simp [start, step, quote, opened, closed]
    rw [partsFrom_cons stays fun same => noComma same.2,
      ih fun d mem => h d (List.mem_cons_of_mem _ mem)]
    rfl

/-- A literal whose text holds no quote and no backslash is a part. -/
theorem isPart_inQuotes {text : String} (h : IsUnquoted text) : IsPart (inQuotes text) := by
  have inside : partsFrom ⟨.quoted, []⟩ (text.toList ++ ['"']) = some [text.toList ++ ['"']] := by
    unfold IsUnquoted at h
    generalize text.toList = cs at h ⊢
    induction cs with
    | nil => decide
    | cons c cs ih =>
      obtain ⟨quote, backslash⟩ := h c List.mem_cons_self
      have stays : step ⟨.quoted, []⟩ c = some ⟨.quoted, []⟩ := by simp [step, quote, backslash]
      rw [List.cons_append, partsFrom_cons stays (fun same => absurd same.1 (by decide)),
        ih fun d mem => h d (List.mem_cons_of_mem _ mem)]
      rfl
  have opens : start.step '"' = some ⟨.quoted, []⟩ := by decide
  have whole : (inQuotes text).toList = '"' :: (text.toList ++ ['"']) := by simp [inQuotes]
  rw [IsPart, whole, partsFrom_cons opens (by decide), inside]
  rfl

/-! ### Joined parts -/

theorem partsFrom_joined {first : String} {more : List String}
    (h : ∀ part ∈ first :: more, IsPart part) :
    start.partsFrom (joined ", " (first :: more)).toList =
      some ((spaced (first :: more)).map String.toList) := by
  induction more generalizing first with
  | nil => exact h first List.mem_cons_self
  | cons next more ih =>
    have blank : IsPart " " := by decide
    have head : IsPart first := h first List.mem_cons_self
    have text : (joined ", " (first :: next :: more)).toList =
        first.toList ++ ',' :: (" ".toList ++ (joined ", " (next :: more)).toList) := by
      simp [joined]
    rw [text, partsFrom_append head, partsFrom_comma, partsFrom_append blank,
      ih fun part mem => h part (List.mem_cons_of_mem _ mem)]
    simp [inFront, spaced]

/-- Parts joined by a comma and a blank are the parts of the text. -/
theorem splitsInto_joined {elements : List String} (nonempty : elements ≠ [])
    (h : ∀ element ∈ elements, IsPart element) : SplitsInto (joined ", " elements) elements := by
  cases elements with
  | nil => exact absurd rfl nonempty
  | cons first more =>
    rw [SplitsInto, parts, partsFrom_joined h, Option.map_some, List.map_map]
    simp

example : SplitsInto "[ 1, 2 ], \"a, b\", c" ["[ 1, 2 ]", "\"a, b\"", "c"] := by decide

end DetectionQuery.Text
