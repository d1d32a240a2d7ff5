import DetectionQuery.Proofs.Expression.Faults

/-!
The selections that a target names.

A name matches a pattern if it can be cut into pieces, one for each character of the pattern, such
that each character stands for its piece (`Glob.Splits`). This is another way to say what
`Glob.Wildcard` builds up from the left (`wildcard_iff_splits`), so the matcher, which tries the
runs of a star one after the other and gives up early, finds a cut whenever there is one.

A target other than `them` is refused exactly if two stars meet in it and are not all of it. Any
other target picks out the selections whose names can be cut, in their order
(`named_eq_filter_splits`).
-/

namespace DetectionQuery

namespace Glob

/-- What a character of a pattern stands for: `*` for any run of characters, `?` for exactly one,
and any other character for itself. -/
inductive StandsFor : Char → List Char → Prop where
  | star (run : List Char) : StandsFor '*' run
  | mark (c : Char) : StandsFor '?' [c]
  | char {c : Char} : c ≠ '*' → c ≠ '?' → StandsFor c [c]

/-- The name can be cut into pieces that the characters of the pattern stand for, one by one. -/
def Splits (pattern name : List Char) : Prop :=
  ∃ pieces : List (List Char), List.Forall₂ StandsFor pattern pieces ∧ pieces.flatten = name

theorem Splits.cons {c : Char} {piece pattern name : List Char} (here : StandsFor c piece)
    (rest : Splits pattern name) : Splits (c :: pattern) (piece ++ name) := by
  obtain ⟨pieces, stand, rfl⟩ := rest
  exact ⟨piece :: pieces, .cons here stand, List.flatten_cons⟩

theorem splits_of_wildcard {pattern name : List Char} (h : Wildcard pattern name) :
    Splits pattern name := by
  induction h with
  | nil => exact ⟨[], .nil, rfl⟩
  | star run _ ih => exact ih.cons (.star run)
  | mark c _ ih => exact ih.cons (.mark c)
  | char star mark _ ih => exact ih.cons (.char star mark)

theorem wildcard_flatten {pattern : List Char} {pieces : List (List Char)}
    (h : List.Forall₂ StandsFor pattern pieces) : Wildcard pattern pieces.flatten := by
  induction h with
  | nil => exact .nil
  | cons here _ ih =>
    rw [List.flatten_cons]
    cases here with
    | star => exact .star _ ih
    | mark => exact .mark _ ih
    | char star mark => exact .char star mark ih

theorem wildcard_iff_splits {pattern name : List Char} :
    Wildcard pattern name ↔ Splits pattern name := by
  constructor
  · exact splits_of_wildcard
  · rintro ⟨pieces, stand, rfl⟩
    exact wildcard_flatten stand

instance (pattern name : List Char) : Decidable (Splits pattern name) :=
  decidable_of_iff _ wildcard_iff_splits

end Glob

namespace Rule

open Expression

/-- Two stars meet in the target and are not all of it. -/
def HasStrayStars (target : String) : Prop :=
  ['*', '*'] <:+: target.toList ∧ target ≠ "**"

instance (target : String) : Decidable (HasStrayStars target) :=
  inferInstanceAs (Decidable (_ ∧ _))

section

variable {target : String} (other : target ≠ "them")
include other

theorem isTarget_iff_not_hasStrayStars : IsTarget target ↔ ¬ HasStrayStars target := by
  unfold IsTarget HasStrayStars
  rw [or_iff_right other, Decidable.not_and_iff_not_or_not, Decidable.not_not]

theorem names_iff_splits {name : String} :
    Names target name ↔ Glob.Splits target.toList name.toList := by
  rw [Names, if_neg other, Glob.wildcard_iff_splits]

/-- **What a target names.** A word other than `them` is refused as a pattern exactly if two stars
meet in it and are not all of it. Otherwise it names exactly the selections whose names can be cut
into pieces that its characters stand for, each of them once and in their order. -/
theorem named_eq_filter_splits (word : ∀ c ∈ target.toList, isWordChar c = true)
    (selections : List NamedSelection) :
    ((∃ fault, named target selections = .error (.invalidPattern fault)) ↔
      HasStrayStars target) ∧
    (¬ HasStrayStars target →
      named target selections = .ok ((selections.filter fun selection =>
        Glob.Splits target.toList selection.1.toList).map Prod.snd)) := by
  have accepted : ¬ HasStrayStars target →
      named target selections = .ok ((selections.filter fun selection =>
        Glob.Splits target.toList selection.1.toList).map Prod.snd) := by
    intro h
    rw [named_of_isTarget word ((isTarget_iff_not_hasStrayStars other).mpr h)]
    simp only [names_iff_splits other]
  refine ⟨⟨?_, ?_⟩, accepted⟩
  · rintro ⟨fault, refused⟩
    by_contra h
    rw [accepted h] at refused
    cases refused
  · intro h
    have noTarget : ¬ IsTarget target := fun isTarget =>
      (isTarget_iff_not_hasStrayStars other).mp isTarget h
    obtain ⟨fault, refused⟩ := exists_fault word noTarget
    refine ⟨fault, ?_⟩
    rw [named, if_neg other, refused]

end

/-- Two stars and a mark: `é` is one character, the star in the middle may stand for nothing or for
what looks like the end, and letters of the other case are left out. -/
theorem named_eq_filter_splits_accent :
    ¬ HasStrayStars "s?_*x*" ∧
      named "s?_*x*" [("sé_x", .leaf (.isNull "a")), ("S1_x", .leaf (.isNull "b")),
          ("s1_xyx.", .leaf (.isNull "c")), ("s_x", .leaf (.isNull "d"))] =
        .ok [.leaf (.isNull "a"), .leaf (.isNull "c")] := by
  have word : ∀ c ∈ "s?_*x*".toList, isWordChar c = true := List.all_eq_true.mp (by decide)
  have other : "s?_*x*" ≠ "them" := by decide
  have single : ¬ HasStrayStars "s?_*x*" := by decide +kernel
  refine ⟨single, ?_⟩
  rw [(named_eq_filter_splits other word _).2 single]
  rfl

end Rule

end DetectionQuery
