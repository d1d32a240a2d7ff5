import DetectionQuery.Glob.Match

/-!
What wildcard patterns mean.

`Wildcard pattern name` is the meaning of a pattern in which only `*` and `?` are special: the name
is the pattern with a run of characters in the place of each `*` and one character in the place of
each `?`. Patterns of path components and sets of characters are left out here.

The matcher gives up early, on `Outcome.exhausted`. This loses no match, since a name that is too
short for the rest of a pattern has no end that is long enough (`Prunes`); so the matcher decides
the relation (`run_tokenOf_eq_found_iff`). A pattern without brackets and separators is read
character by character (`parseFrom_of_not_infix`) unless two stars meet in it, and then it is either
`**` alone or refused (`parseFrom_of_infix`), which settles what is read (`exists_parse_iff`); `**`
alone matches every name, as its meaning demands.
-/

namespace DetectionQuery.Glob

/-- The name as a whole matches the pattern: `*` stands for any run of characters, `?` for exactly
one, and any other character for itself. -/
inductive Wildcard : List Char → List Char → Prop where
  | nil : Wildcard [] []
  | star (run : List Char) {pattern name : List Char} :
      Wildcard pattern name → Wildcard ('*' :: pattern) (run ++ name)
  | mark (c : Char) {pattern name : List Char} :
      Wildcard pattern name → Wildcard ('?' :: pattern) (c :: name)
  | char {c : Char} {pattern name : List Char} :
      c ≠ '*' → c ≠ '?' → Wildcard pattern name → Wildcard (c :: pattern) (c :: name)

/-- What a character of a pattern stands for where it forms an element on its own. -/
def tokenOf (c : Char) : Token :=
  if c = '*' then .anySequence else if c = '?' then .anyChar else .char c

theorem tokenOf_star : tokenOf '*' = .anySequence := rfl

/-- A character other than the star stands for exactly one character. -/
theorem run_tokenOf_cons {c : Char} (h : c ≠ '*') (tokens : List Token) (d : Char)
    (name : List Char) :
    run (tokenOf c :: tokens) (d :: name) =
      if c = '?' ∨ d = c then run tokens name else .mismatch := by
  by_cases mark : c = '?'
  · simp [tokenOf, mark, run, Token.accepts]
  · simp [tokenOf, h, mark, run, Token.accepts]

theorem run_tokenOf_nil {c : Char} (h : c ≠ '*') (tokens : List Token) :
    run (tokenOf c :: tokens) [] = .exhausted := by
  by_cases mark : c = '?'
  · simp [tokenOf, mark, run]
  · simp [tokenOf, h, mark, run]

/-! ### Giving up early -/

/-- Once the name ends before the pattern, no end of that name matches either. -/
def Prunes (rest : List Char → Outcome) : Prop :=
  ∀ name ending, rest name = .exhausted → ending <:+ name → rest ending ≠ .found

/-- If giving up early is right for what comes behind a run, then trying all the runs finds a match
exactly if there is one. -/
theorem Prunes.sweep_eq_found_iff {rest : List Char → Outcome} (h : Prunes rest)
    (name : List Char) :
    sweep rest name = .found ↔ ∃ ending, ending <:+ name ∧ rest ending = .found := by
  induction name with
  | nil => simp [sweep]
  | cons c name ih =>
    rw [sweep]
    cases here : rest (c :: name) with
    | found => exact iff_of_true rfl ⟨_, List.suffix_refl _, here⟩
    | exhausted =>
      refine iff_of_false nofun ?_
      rintro ⟨ending, suffix, match_⟩
      exact h _ _ here suffix match_
    | mismatch =>
      refine ih.trans ⟨?_, ?_⟩
      · rintro ⟨ending, suffix, match_⟩
        exact ⟨ending, suffix.trans (List.suffix_cons c name), match_⟩
      · rintro ⟨ending, suffix, match_⟩
        rcases List.suffix_cons_iff.mp suffix with rfl | suffix
        · rw [here] at match_
          cases match_
        · exact ⟨ending, suffix, match_⟩

theorem Prunes.sweep {rest : List Char → Outcome} (h : Prunes rest) : Prunes (sweep rest) := by
  intro name ending exhausted suffix found
  obtain ⟨shorter, inner, match_⟩ := (h.sweep_eq_found_iff ending).mp found
  have whole := (h.sweep_eq_found_iff name).mpr ⟨shorter, inner.trans suffix, match_⟩
  rw [exhausted] at whole
  cases whole

theorem prunes_run (pattern : List Char) : Prunes (run (pattern.map tokenOf)) := by
  induction pattern with
  | nil =>
    intro name ending exhausted
    rw [List.map_nil, run] at exhausted
    split at exhausted <;> cases exhausted
  | cons c pattern ih =>
    rw [List.map_cons]
    by_cases star : c = '*'
    · rw [star]
      exact ih.sweep
    · intro name ending exhausted suffix found
      cases ending with
      | nil =>
        rw [run_tokenOf_nil star] at found
        cases found
      | cons d ending =>
        rw [run_tokenOf_cons star] at found
        split at found
        case isFalse => cases found
        case isTrue =>
          -- What follows the first character of the ending is an ending of what follows the first
          -- character of the name.
          obtain ⟨before, same⟩ := suffix
          cases before with
          | nil =>
            rw [← same, List.nil_append, run_tokenOf_cons star, if_pos ‹_›] at exhausted
            exact ih _ _ exhausted (List.suffix_refl _) found
          | cons e before =>
            rw [← same, List.cons_append, run_tokenOf_cons star] at exhausted
            split at exhausted
            · exact ih _ _ exhausted ⟨before ++ [d], by simp⟩ found
            · cases exhausted

/-! ### The matcher decides the relation -/

theorem wildcard_star_iff {pattern name : List Char} :
    Wildcard ('*' :: pattern) name ↔ ∃ ending, ending <:+ name ∧ Wildcard pattern ending := by
  constructor
  · intro h
    cases h with
    | star run h => exact ⟨_, ⟨run, rfl⟩, h⟩
    | char star => exact absurd rfl star
  · rintro ⟨ending, ⟨run, rfl⟩, h⟩
    exact .star run h

theorem wildcard_cons_iff {c : Char} (star : c ≠ '*') {pattern name : List Char} :
    Wildcard (c :: pattern) name ↔
      ∃ d ending, name = d :: ending ∧ (c = '?' ∨ d = c) ∧ Wildcard pattern ending := by
  constructor
  · intro h
    cases h with
    | star => exact absurd rfl star
    | mark d h => exact ⟨d, _, rfl, .inl rfl, h⟩
    | char _ _ h => exact ⟨c, _, rfl, .inr rfl, h⟩
  · rintro ⟨d, ending, rfl, accepted, h⟩
    by_cases mark : c = '?'
    · rw [mark]
      exact .mark d h
    · obtain rfl := accepted.resolve_left mark
      exact .char star mark h

/-- **The matcher decides the relation.** -/
theorem run_tokenOf_eq_found_iff (pattern name : List Char) :
    run (pattern.map tokenOf) name = .found ↔ Wildcard pattern name := by
  induction pattern generalizing name with
  | nil =>
    cases name with
    | nil => exact iff_of_true rfl .nil
    | cons c name => exact iff_of_false nofun nofun
  | cons c pattern ih =>
    rw [List.map_cons]
    by_cases star : c = '*'
    · rw [star, tokenOf_star, run, (prunes_run pattern).sweep_eq_found_iff, wildcard_star_iff]
      simp only [ih]
    · rw [wildcard_cons_iff star]
      cases name with
      | nil =>
        rw [run_tokenOf_nil star]
        exact iff_of_false nofun nofun
      | cons d name =>
        rw [run_tokenOf_cons star]
        by_cases accepted : c = '?' ∨ d = c
        · rw [if_pos accepted, ih]
          constructor
          · intro h
            exact ⟨d, name, rfl, accepted, h⟩
          · rintro ⟨_, _, same, -, h⟩
            cases same
            exact h
        · rw [if_neg accepted]
          refine iff_of_false nofun ?_
          rintro ⟨_, _, same, h, -⟩
          cases same
          exact accepted h

instance (pattern name : List Char) : Decidable (Wildcard pattern name) :=
  decidable_of_iff _ (run_tokenOf_eq_found_iff pattern name)

/-! ### Reading patterns -/

section Reading

variable {position fuel : Nat} {fresh : Bool} {found : List Token}

/-- A character that opens no set and is no star before another is an element on its own. -/
theorem parseFrom_cons {c : Char} {rest : List Char} (bracket : c ≠ '[')
    (single : ¬ ['*', '*'] <+: c :: rest) :
    parseFrom position fresh found (fuel + 1) (c :: rest) =
      parseFrom (position + 1) (c = '/') (tokenOf c :: found) fuel rest := by
  by_cases star : c = '*'
  · subst star
    rw [parseFrom]
    · rfl
    · rintro more rfl
      exact single ⟨more, rfl⟩
  · by_cases mark : c = '?'
    · subst mark
      rw [parseFrom]
      rfl
    · have token : tokenOf c = .char c := by simp [tokenOf, star, mark]
      rw [parseFrom, token]
      · exact mark
      · rintro - rfl
        exact absurd rfl star
      · exact star
      · exact bracket

/-- A pattern in which no two stars meet is read character by character. -/
theorem parseFrom_of_not_infix {pattern : List Char} (enough : pattern.length ≤ fuel)
    (bracket : '[' ∉ pattern) (single : ¬ ['*', '*'] <:+: pattern) :
    parseFrom position fresh found fuel pattern = .ok (found.reverse ++ pattern.map tokenOf) := by
  induction pattern generalizing position fuel fresh found with
  | nil => cases fuel <;> simp [parseFrom]
  | cons c rest ih =>
    cases fuel with
    | zero => cases enough
    | succ fuel =>
      rw [List.mem_cons, not_or] at bracket
      rw [List.infix_cons_iff, not_or] at single
      rw [parseFrom_cons (Ne.symm bracket.1) single.1,
        ih (Nat.le_of_succ_le_succ enough) bracket.2 single.2, List.reverse_cons, List.map_cons,
        List.append_assoc, List.singleton_append]

theorem parseFrom_stars {after : List Char} (separator : '/' ∉ after)
    (part : fresh = true → after ≠ []) :
    ∃ fault, parseFrom position fresh found (fuel + 1) ('*' :: '*' :: after) = .error fault := by
  cases after with
  | nil =>
    cases fresh with
    | false => exact ⟨_, rfl⟩
    | true => exact absurd rfl (part rfl)
  | cons c after =>
    by_cases star : c = '*'
    · rw [star]
      exact ⟨_, rfl⟩
    · have inside : c ≠ '/' := fun same => separator (same ▸ List.mem_cons_self)
      rw [parseFrom.eq_def]
      cases fresh with
      | false => exact ⟨⟨position - 1, .partialComponent⟩, by simp [star]⟩
      | true => exact ⟨⟨position + 2, .partialComponent⟩, by simp [star, inside]⟩

/-- Two stars that meet have to be a whole path component. -/
theorem parseFrom_of_infix {pattern : List Char} (enough : pattern.length ≤ fuel)
    (bracket : '[' ∉ pattern) (separator : '/' ∉ pattern) (double : ['*', '*'] <:+: pattern)
    (part : fresh = true → pattern ≠ ['*', '*']) :
    ∃ fault, parseFrom position fresh found fuel pattern = .error fault := by
  induction pattern generalizing position fuel fresh found with
  | nil => cases List.infix_nil.mp double
  | cons c rest ih =>
    cases fuel with
    | zero => cases enough
    | succ fuel =>
      rw [List.mem_cons, not_or] at bracket separator
      by_cases here : ['*', '*'] <+: c :: rest
      · obtain ⟨after, same⟩ := here
        cases same
        refine parseFrom_stars (fun mem => separator.2 (List.mem_cons_of_mem _ mem)) ?_
        rintro start rfl
        exact part start rfl
      · rw [parseFrom_cons (Ne.symm bracket.1) here]
        have later := (List.infix_cons_iff.mp double).resolve_left here
        refine ih (Nat.le_of_succ_le_succ enough) bracket.2 separator.2 later fun start => ?_
        exact absurd (of_decide_eq_true start).symm separator.1

end Reading

/-- **Which patterns of letters and wildcards are read.** Two stars do not meet in them, or are all
of them. -/
theorem exists_parse_iff {pattern : String} (bracket : '[' ∉ pattern.toList)
    (separator : '/' ∉ pattern.toList) :
    (∃ tokens, parse pattern = .ok tokens) ↔
      ¬ ['*', '*'] <:+: pattern.toList ∨ pattern = "**" := by
  have enough : pattern.toList.length ≤ pattern.length := Nat.le_of_eq (String.length_toList)
  by_cases double : ['*', '*'] <:+: pattern.toList
  · by_cases whole : pattern = "**"
    · subst whole
      exact iff_of_true ⟨[.anyRecursive], rfl⟩ (.inr rfl)
    · have part : pattern.toList ≠ ['*', '*'] := fun same => whole (String.toList_inj.mp same)
      obtain ⟨fault, refused⟩ := parseFrom_of_infix enough bracket separator double fun _ => part
      rw [parse, refused]
      refine iff_of_false nofun ?_
      rintro (single | same)
      · exact single double
      · exact whole same
  · exact iff_of_true ⟨_, parseFrom_of_not_infix enough bracket double⟩ (.inl double)

/-- The pattern `**` matches every name. -/
theorem run_anyRecursive (name : List Char) : run [.anyRecursive] name = .found := by
  have components (rest : List Char) : sweepComponents (run []) rest = .found := by
    induction rest with
    | nil => rfl
    | cons c rest ih =>
      by_cases separator : c = '/'
      · rw [separator, sweepComponents, ih]
        cases rest <;> rfl
      · rw [sweepComponents, ih]
        exact separator
  cases name with
  | nil => rfl
  | cons c name => exact components (c :: name)

theorem wildcard_stars (name : List Char) : Wildcard ['*', '*'] name := by
  have h : Wildcard ['*', '*'] (name ++ ([] ++ [])) := .star name (.star [] .nil)
  rwa [List.append_nil, List.append_nil] at h

/-- **What a pattern of letters and wildcards names.** If such a pattern is read, it matches exactly
the names that its wildcards allow. -/
theorem isMatch_iff_wildcard {pattern name : String} {tokens : List Token}
    (bracket : '[' ∉ pattern.toList) (separator : '/' ∉ pattern.toList)
    (h : parse pattern = .ok tokens) :
    isMatch tokens name = true ↔ Wildcard pattern.toList name.toList := by
  have enough : pattern.toList.length ≤ pattern.length := Nat.le_of_eq (String.length_toList)
  rw [isMatch, decide_eq_true_iff]
  by_cases double : ['*', '*'] <:+: pattern.toList
  · by_cases whole : pattern.toList = ['*', '*']
    · have alone : tokens = [.anyRecursive] := by
        have two : pattern.length = 1 + 1 := by rw [← String.length_toList, whole]; rfl
        rw [parse, whole, two] at h
        exact (Except.ok.inj h).symm
      rw [alone, whole]
      exact iff_of_true (run_anyRecursive _) (wildcard_stars _)
    · obtain ⟨fault, refused⟩ := parseFrom_of_infix enough bracket separator double fun _ => whole
      rw [parse, refused] at h
      cases h
  · rw [parse, parseFrom_of_not_infix enough bracket double] at h
    cases h
    exact run_tokenOf_eq_found_iff _ _

end DetectionQuery.Glob
