import Mathlib.Data.List.Forall2

/-!
Steps that may fail, taken one after the other.

A sequence of steps succeeds exactly when each of them does, and so does the same step taken for
every member of a list. A successful run over a list pairs each member with its result
(`mapM_eq_ok_iff`, `mapM_eq_ok_iff_forall₂`). `failure?` is the error that a step ends with; of two
steps in a row it is the first that fails whose error is left (`failure?_bind`), and the same holds
of a run over a list (`failure?_mapM`). Two steps agree if both succeed or both fail, with results
that are related and errors of the same kind (`Agree`).
-/

namespace DetectionQuery

variable {ε α β : Type}

theorem bind_eq_ok_iff {x : Except ε α} {f : α → Except ε β} {b : β} :
    (x >>= f) = .ok b ↔ ∃ a, x = .ok a ∧ f a = .ok b := by
  cases x with
  | ok a =>
    constructor
    · intro h
      exact ⟨a, rfl, h⟩
    · rintro ⟨_, same, h⟩
      cases same
      exact h
  | error e =>
    constructor
    · intro h
      cases h
    · rintro ⟨_, h, _⟩
      cases h

/-! ### Failures -/

/-- The error of a step that fails. -/
def failure? : Except ε α → Option ε
  | .ok _ => none
  | .error e => some e

@[simp] theorem failure?_ok (a : α) : failure? (.ok a : Except ε α) = none := rfl

@[simp] theorem failure?_error (e : ε) : failure? (.error e : Except ε α) = some e := rfl

theorem failure?_eq_some_iff {x : Except ε α} {e : ε} : failure? x = some e ↔ x = .error e := by
  cases x <;> simp

theorem failure?_eq_none_iff {x : Except ε α} : failure? x = none ↔ ∃ a, x = .ok a := by
  cases x <;> simp

/-- Two steps in a row, of which the second fails alike whatever the first results in. -/
theorem failure?_bind {x : Except ε α} {f : α → Except ε β} {later : Option ε}
    (h : ∀ a, x = .ok a → failure? (f a) = later) :
    failure? (x >>= f) = (failure? x).or later := by
  cases x with
  | error e => rfl
  | ok a =>
    rw [failure?_ok, Option.none_or]
    exact h a rfl

/-- A step whose result is only put to use fails as it does on its own. -/
theorem failure?_bind_ok {x : Except ε α} {f : α → β} :
    failure? (x >>= fun a => .ok (f a)) = failure? x := by
  rw [failure?_bind fun _ _ => failure?_ok _, Option.or_none]

/-! ### One step for every member of a list -/

variable {f : α → Except ε β} {inputs : List α}

theorem mapM_congr {g : α → Except ε β} (h : ∀ input ∈ inputs, f input = g input) :
    inputs.mapM f = inputs.mapM g := by
  induction inputs with
  | nil => rfl
  | cons input rest ih =>
    rw [List.mapM_cons, List.mapM_cons, h input List.mem_cons_self,
      ih fun other mem => h other (List.mem_cons_of_mem input mem)]

/-- The first step that fails decides. -/
theorem failure?_mapM :
    failure? (inputs.mapM f) = inputs.findSome? fun input => failure? (f input) := by
  induction inputs with
  | nil => rfl
  | cons input rest ih =>
    rw [List.mapM_cons, List.findSome?_cons]
    refine (failure?_bind fun _ _ => failure?_bind_ok.trans ih).trans ?_
    cases failure? (f input) <;> rfl

theorem mapM_eq_ok_iff {results : List β} :
    inputs.mapM f = .ok results ↔
      ∃ run : List (α × β), run.map Prod.fst = inputs ∧ run.map Prod.snd = results ∧
        ∀ step ∈ run, f step.1 = .ok step.2 := by
  constructor
  · intro h
    induction inputs generalizing results with
    | nil =>
      rw [List.mapM_nil] at h
      cases h
      exact ⟨[], rfl, rfl, by simp⟩
    | cons input rest ih =>
      rw [List.mapM_cons] at h
      obtain ⟨result, hresult, h⟩ := bind_eq_ok_iff.mp h
      obtain ⟨more, hmore, h⟩ := bind_eq_ok_iff.mp h
      cases h
      obtain ⟨run, rfl, rfl, steps⟩ := ih hmore
      exact ⟨(input, result) :: run, rfl, rfl, List.forall_mem_cons.mpr ⟨hresult, steps⟩⟩
  · rintro ⟨run, rfl, rfl, steps⟩
    induction run with
    | nil => rfl
    | cons step run ih =>
      obtain ⟨head, tail⟩ := List.forall_mem_cons.mp steps
      rw [List.map_cons, List.mapM_cons]
      exact bind_eq_ok_iff.mpr ⟨step.2, head, bind_eq_ok_iff.mpr ⟨_, ih tail, rfl⟩⟩

/-- A run that does not end with an error of some kind is the same for any other step that agrees
with the first wherever that does not end so. -/
theorem mapM_congr_of_not_lost {g : α → Except ε β} (lost : ε → Prop)
    (step : ∀ input ∈ inputs, (∀ e, lost e → f input ≠ .error e) → f input = g input)
    (h : ∀ e, lost e → inputs.mapM f ≠ .error e) : inputs.mapM f = inputs.mapM g := by
  induction inputs with
  | nil => rfl
  | cons input rest ih =>
    have first : ∀ e, lost e → f input ≠ .error e := by
      intro e hlost failed
      refine h e hlost ?_
      rw [List.mapM_cons, failed]
      rfl
    rw [List.mapM_cons, List.mapM_cons, ← step input List.mem_cons_self first]
    cases hresult : f input with
    | error e => rfl
    | ok result =>
      have more : ∀ e, lost e → rest.mapM f ≠ .error e := by
        intro e hlost failed
        refine h e hlost ?_
        rw [List.mapM_cons, hresult, failed]
        rfl
      rw [ih (fun other mem => step other (List.mem_cons_of_mem input mem)) more]

theorem mapM_eq_ok_iff_forall₂ {results : List β} :
    inputs.mapM f = .ok results ↔
      List.Forall₂ (fun input result => f input = .ok result) inputs results := by
  constructor
  · intro h
    obtain ⟨run, rfl, rfl, steps⟩ := mapM_eq_ok_iff.mp h
    rw [List.forall₂_map_left_iff, List.forall₂_map_right_iff, List.forall₂_same]
    exact steps
  · intro h
    induction h with
    | nil => rfl
    | cons head _ ih =>
      rw [List.mapM_cons, head, ih]
      rfl

/-- If every successful step has something to show for its input and its result, a successful run
has a list of such things to show. -/
theorem exists_forall₂_of_mapM {γ : Type} {p : α → γ → Prop} {q : β → γ → Prop} {results : List β}
    (h : inputs.mapM f = .ok results)
    (step : ∀ input result, f input = .ok result → ∃ part, p input part ∧ q result part) :
    ∃ parts, List.Forall₂ p inputs parts ∧ List.Forall₂ q results parts := by
  rw [mapM_eq_ok_iff_forall₂] at h
  induction h with
  | nil => exact ⟨[], .nil, .nil⟩
  | @cons input result inputs results head _ ih =>
    obtain ⟨part, hinput, hresult⟩ := step input result head
    obtain ⟨parts, hinputs, hresults⟩ := ih
    exact ⟨part :: parts, .cons hinput hinputs, .cons hresult hresults⟩

theorem length_of_mapM {results : List β} (h : inputs.mapM f = .ok results) :
    results.length = inputs.length := by
  obtain ⟨run, rfl, rfl, -⟩ := mapM_eq_ok_iff.mp h
  simp

/-- What every successful step establishes of its result holds of all results. -/
theorem forall_of_mapM {results : List β} {p : β → Prop} (h : inputs.mapM f = .ok results)
    (step : ∀ input ∈ inputs, ∀ result, f input = .ok result → p result) :
    ∀ result ∈ results, p result := by
  obtain ⟨run, rfl, rfl, steps⟩ := mapM_eq_ok_iff.mp h
  intro result mem
  obtain ⟨taken, htaken, rfl⟩ := List.mem_map.mp mem
  exact step taken.1 (List.mem_map_of_mem htaken) taken.2 (steps taken htaken)

/-! ### Steps that agree -/

section

variable {κ γ δ : Type} {kind : ε → κ} {related : α → β → Prop}

/-- Both steps succeed, with related results, or both fail, with errors of the same kind. -/
inductive Agree (kind : ε → κ) (related : α → β → Prop) : Except ε α → Except ε β → Prop where
  | ok {a : α} {b : β} : related a b → Agree kind related (.ok a) (.ok b)
  | error {e e' : ε} : kind e = kind e' → Agree kind related (.error e) (.error e')

namespace Agree

theorem refl (x : Except ε α) : Agree kind Eq x x := by
  cases x with
  | ok a => exact .ok rfl
  | error e => exact .error rfl

theorem bind {x : Except ε α} {y : Except ε β} {f : α → Except ε γ} {g : β → Except ε δ}
    {later : γ → δ → Prop} (h : Agree kind related x y)
    (next : ∀ a b, related a b → Agree kind later (f a) (g b)) :
    Agree kind later (x >>= f) (y >>= g) := by
  cases h with
  | ok hrelated => exact next _ _ hrelated
  | error same => exact .error same

theorem bind_same {x y : Except ε α} {f : α → Except ε γ} {g : α → Except ε δ}
    {later : γ → δ → Prop} (h : Agree kind Eq x y) (next : ∀ a, Agree kind later (f a) (g a)) :
    Agree kind later (x >>= f) (y >>= g) := by
  refine h.bind ?_
  rintro a _ rfl
  exact next a

/-- The same two steps for every member of a list. -/
theorem mapM {g : α → Except ε β} (h : ∀ input, Agree kind Eq (f input) (g input))
    (inputs : List α) : Agree kind Eq (inputs.mapM f) (inputs.mapM g) := by
  induction inputs with
  | nil => exact .refl _
  | cons input rest ih =>
    rw [List.mapM_cons, List.mapM_cons]
    exact (h input).bind_same fun _ => ih.bind_same fun _ => .refl _

end Agree

theorem agree_eq_iff {x y : Except ε α} :
    Agree kind Eq x y ↔ (∃ a, x = .ok a ∧ y = .ok a) ∨
      ∃ e e', x = .error e ∧ y = .error e' ∧ kind e = kind e' := by
  constructor
  · intro h
    cases h with
    | ok same => exact .inl ⟨_, rfl, by rw [same]⟩
    | error same => exact .inr ⟨_, _, rfl, rfl, same⟩
  · rintro (⟨a, rfl, rfl⟩ | ⟨e, e', rfl, rfl, same⟩)
    · exact .ok rfl
    · exact .error same

end

end DetectionQuery
