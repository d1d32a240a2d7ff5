import DetectionQuery.Text.Layout

/-!
Brackets and quotes of a written text.

A reader goes through a text character by character. Outside quotes a bracket opens or closes a
pair; inside quotes only the closing quote counts, and a backslash shields the character behind it.
`Nesting.step` is one such step and fails where a bracket closes a pair that is not open.

* `Passes place text` says that reading `text` leads from `place` back to `place` with every bracket
  that it opened closed again. What passes may be put next to each other, between brackets and, if
  it passes inside quotes, between quotes.
* `cut` takes the bracketed unit that a text starts with; `cut_braced` says that it ends where its
  own brace closes, whatever stands in its quotes and behind it.
-/

namespace DetectionQuery.Text

/-- A pair of brackets. -/
inductive Bracket where
  | brace
  | square
deriving DecidableEq, Repr

def Bracket.opened? : Char → Option Bracket
  | '\x7b' => some .brace
  | '[' => some .square
  | _ => none

def Bracket.closed? : Char → Option Bracket
  | '\x7d' => some .brace
  | ']' => some .square
  | _ => none

/-- Where a reader stands with respect to quotes. -/
inductive Place where
  | outside
  | quoted
  /-- Inside quotes, directly behind a backslash. -/
  | shielded
deriving DecidableEq, Repr

/-- What a reader of a text keeps in mind: its place and the pairs that are still open, the
innermost first. -/
structure Nesting where
  place : Place
  pending : List Bracket
deriving DecidableEq, Repr

namespace Nesting

def start : Nesting := ⟨.outside, []⟩

/-- The open pairs after one of them is closed. -/
def close (bracket : Bracket) : List Bracket → Option (List Bracket)
  | [] => none
  | innermost :: rest => if innermost = bracket then some rest else none

/-- One character further. -/
def step : Nesting → Char → Option Nesting
  | ⟨.quoted, pending⟩, c =>
    if c = '"' then some ⟨.outside, pending⟩
    else if c = '\\' then some ⟨.shielded, pending⟩
    else some ⟨.quoted, pending⟩
  | ⟨.shielded, pending⟩, _ => some ⟨.quoted, pending⟩
  | ⟨.outside, pending⟩, c =>
    if c = '"' then some ⟨.quoted, pending⟩
    else
      match Bracket.opened? c with
      | some bracket => some ⟨.outside, bracket :: pending⟩
      | none =>
        match Bracket.closed? c with
        | some bracket => (close bracket pending).map (⟨.outside, ·⟩)
        | none => some ⟨.outside, pending⟩

/-- The state after a text, if no bracket in it closes a pair that is not open. -/
def run (nesting : Nesting) (cs : List Char) : Option Nesting :=
  cs.foldlM step nesting

/-- Takes a text up to the character after which no pair is open, starting inside a unit. -/
def cutFrom (nesting : Nesting) : List Char → Option (List Char × List Char)
  | [] => none
  | c :: rest =>
    match nesting.step c with
    | none => none
    | some next =>
      if next = start then some ([c], rest)
      else (cutFrom next rest).map fun (unit, after) => (c :: unit, after)

/-- Takes the bracketed unit that a text starts with. -/
def cut (cs : List Char) : Option (List Char × List Char) :=
  start.cutFrom cs

@[simp] theorem run_nil (nesting : Nesting) : nesting.run [] = some nesting := rfl

theorem run_cons (nesting : Nesting) (c : Char) (cs : List Char) :
    nesting.run (c :: cs) = (nesting.step c).bind (·.run cs) := rfl

theorem run_append (nesting : Nesting) (cs ds : List Char) :
    nesting.run (cs ++ ds) = (nesting.run cs).bind (·.run ds) :=
  List.foldlM_append

/-! ### What is open around a text does not matter to it -/

theorem close_append {bracket : Bracket} {pending left : List Bracket}
    (h : close bracket pending = some left) (base : List Bracket) :
    close bracket (pending ++ base) = some (left ++ base) := by
  cases pending with
  | nil => simp [close] at h
  | cons innermost rest =>
    by_cases same : innermost = bracket
    · simp only [close, same, if_true, Option.some.injEq] at h
      simp [close, same, h]
    · simp [close, same] at h

/-- A step that is possible with some pairs open is possible with further pairs open around them,
and leaves those alone. -/
theorem step_append {place : Place} {pending : List Bracket} {c : Char} {next : Nesting}
    (h : step ⟨place, pending⟩ c = some next) (base : List Bracket) :
    step ⟨place, pending ++ base⟩ c = some ⟨next.place, next.pending ++ base⟩ := by
  cases place with
  | quoted =>
    simp only [step] at h ⊢
    split at h
    · cases h; simp_all
    · split at h
      · cases h; simp_all
      · cases h; simp_all
  | shielded =>
    simp only [step] at h ⊢
    cases h
    rfl
  | outside =>
    simp only [step] at h ⊢
    by_cases quote : c = '"'
    · simp only [quote, if_true] at h ⊢
      cases h
      rfl
    · simp only [quote, if_false] at h ⊢
      cases opened : Bracket.opened? c with
      | some bracket =>
        simp only [opened] at h ⊢
        cases h
        rfl
      | none =>
        simp only [opened] at h ⊢
        cases closed : Bracket.closed? c with
        | none =>
          simp only [closed] at h ⊢
          cases h
          rfl
        | some bracket =>
          simp only [closed, Option.map_eq_some_iff] at h ⊢
          obtain ⟨left, hleft, rfl⟩ := h
          exact ⟨left ++ base, close_append hleft base, rfl⟩

theorem run_frame {place : Place} {pending : List Bracket} {cs : List Char} {last : Nesting}
    (h : run ⟨place, pending⟩ cs = some last) (base : List Bracket) :
    run ⟨place, pending ++ base⟩ cs = some ⟨last.place, last.pending ++ base⟩ := by
  induction cs generalizing place pending with
  | nil =>
    cases h
    rfl
  | cons c cs ih =>
    rw [run_cons, Option.bind_eq_some_iff] at h
    obtain ⟨next, hstep, hrun⟩ := h
    rw [run_cons, step_append hstep base]
    exact ih hrun

end Nesting

open Nesting

/-! ### Texts that pass -/

/-- Reading the text at `place` leads back to `place`, with no pair opened or closed on balance. -/
def Passes (place : Place) (text : String) : Prop :=
  run ⟨place, []⟩ text.toList = some ⟨place, []⟩

instance (place : Place) (text : String) : Decidable (Passes place text) :=
  inferInstanceAs (Decidable (_ = _))

/-- A character that is neither a bracket nor a quote. -/
def Inert (c : Char) : Prop :=
  c ≠ '"' ∧ Bracket.opened? c = none ∧ Bracket.closed? c = none

instance (c : Char) : Decidable (Inert c) :=
  inferInstanceAs (Decidable (_ ∧ _ ∧ _))

namespace Passes

/-- A text that passes does so whatever is open around it. -/
theorem run_eq {place : Place} {text : String} (h : Passes place text) (base : List Bracket) :
    run ⟨place, base⟩ text.toList = some ⟨place, base⟩ := by
  simpa using run_frame h base

theorem append {place : Place} {s t : String} (hs : Passes place s) (ht : Passes place t) :
    Passes place (s ++ t) := by
  unfold Passes at *
  rw [String.toList_append, run_append, hs, Option.bind_some, ht]

/-- A text whose characters each pass, passes. -/
theorem ofList_flatMap {α : Type} {place : Place} {f : α → List Char} {items : List α}
    (h : ∀ item ∈ items, Passes place (String.ofList (f item))) :
    Passes place (String.ofList (items.flatMap f)) := by
  induction items with
  | nil => rfl
  | cons item rest ih =>
    rw [List.flatMap_cons, String.ofList_append]
    exact append (h item List.mem_cons_self)
      (ih fun other mem => h other (List.mem_cons_of_mem _ mem))

theorem of_inert {text : String} (h : ∀ c ∈ text.toList, Inert c) : Passes .outside text := by
  have chars : ∀ c ∈ text.toList, Passes .outside (String.ofList [c]) := by
    intro c mem
    obtain ⟨quote, opened, closed⟩ := h c mem
    simp [Passes, run_cons, step, quote, opened, closed]
  simpa using ofList_flatMap (f := fun c => [c]) chars

/-- A text that passes stays so between two texts of which the second undoes the first. -/
theorem enclosed {place inner : Place} {before body after : String} (pending : List Bracket)
    (hbefore : run ⟨place, []⟩ before.toList = some ⟨inner, pending⟩) (hbody : Passes inner body)
    (hafter : run ⟨inner, pending⟩ after.toList = some ⟨place, []⟩) :
    Passes place (before ++ body ++ after) := by
  unfold Passes
  rw [String.toList_append, String.toList_append, run_append, run_append, hbefore,
    Option.bind_some, hbody.run_eq, Option.bind_some, hafter]

theorem inQuotes {text : String} (h : Passes .quoted text) : Passes .outside (inQuotes text) :=
  enclosed [] (by decide) h (by decide)

theorem braced {body : String} (h : Passes .outside body) : Passes .outside (braced body) :=
  enclosed [.brace] (by decide) h (by decide)

theorem bracketed {body : String} (h : Passes .outside body) :
    Passes .outside (bracketed body) :=
  enclosed [.square] (by decide) h (by decide)

/-- A list may also be written without blanks inside its brackets. -/
theorem squared {body : String} (h : Passes .outside body) :
    Passes .outside ("[" ++ body ++ "]") :=
  enclosed [.square] (by decide) h (by decide)

theorem member {key value : String} (hkey : Passes .outside key) (hvalue : Passes .outside value) :
    Passes .outside (member key value) := by
  have colon : Passes .outside ": " := by decide
  exact (hkey.append colon).append hvalue

theorem joined {separator : String} {parts : List String} (hsep : Passes .outside separator)
    (hparts : ∀ part ∈ parts, Passes .outside part) : Passes .outside (joined separator parts) := by
  fun_induction Text.joined separator parts with
  | case1 => rfl
  | case2 part => exact hparts part List.mem_cons_self
  | case3 part next rest ih =>
    have tail : ∀ part ∈ next :: rest, Passes .outside part :=
      fun other mem => hparts other (List.mem_cons_of_mem _ mem)
    exact ((hparts part List.mem_cons_self).append hsep).append (ih tail)

end Passes

/-! ### Units -/

namespace Nesting

/-- With a pair open around a text, cutting goes through all of the text. -/
theorem cutFrom_append {place : Place} {pending : List Bracket} {cs : List Char} {last : Nesting}
    (h : run ⟨place, pending⟩ cs = some last) (base : List Bracket) (hbase : base ≠ [])
    (rest : List Char) :
    cutFrom ⟨place, pending ++ base⟩ (cs ++ rest) =
      (cutFrom ⟨last.place, last.pending ++ base⟩ rest).map fun (unit, after) =>
        (cs ++ unit, after) := by
  induction cs generalizing place pending with
  | nil =>
    cases h
    simp
  | cons c cs ih =>
    rw [run_cons, Option.bind_eq_some_iff] at h
    obtain ⟨next, hstep, hrun⟩ := h
    have going : (⟨next.place, next.pending ++ base⟩ : Nesting) ≠ start := by
      intro same
      have empty : next.pending ++ base = [] := congrArg Nesting.pending same
      exact hbase (List.append_eq_nil_iff.mp empty).2
    simp only [List.cons_append, cutFrom, step_append hstep base, if_neg going, ih hrun,
      Option.map_map]
    rfl

/-- An object is cut off exactly where its own brace closes. -/
theorem cut_braced {body : String} (h : Passes .outside body) (rest : List Char) :
    cut ((braced body).toList ++ rest) = some ((braced body).toList, rest) := by
  have inner : Passes .outside (" " ++ body ++ " ") := by
    have blank : Passes .outside " " := by decide
    exact (blank.append h).append blank
  have whole : (braced body).toList = '\x7b' :: ((" " ++ body ++ " ").toList ++ ['\x7d']) := by
    simp [braced]
  have opening : step start '\x7b' = some ⟨.outside, [.brace]⟩ := by decide
  have going : (⟨.outside, [.brace]⟩ : Nesting) ≠ start := by decide
  have through := cutFrom_append inner [.brace] (by simp) ('\x7d' :: rest)
  have closing : cutFrom ⟨.outside, [.brace]⟩ ('\x7d' :: rest) = some (['\x7d'], rest) := by
    simp [cutFrom, step, Bracket.opened?, Bracket.closed?, close, start]
  simp only [List.nil_append, closing, Option.map_some] at through
  rw [whole, cut, List.cons_append, List.append_assoc, List.singleton_append]
  simp only [cutFrom, opening, if_neg going, through, Option.map_some]

end Nesting

end DetectionQuery.Text
