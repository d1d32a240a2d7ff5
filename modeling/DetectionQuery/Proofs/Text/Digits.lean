import DetectionQuery.Text.Digits

/-!
Reading numbers that are written in decimal digits.

`readDigits_toDigits` says that a number is read back from its digits, with any number of zeros
before them, and `eq_toDigits_of_readDigits` that it is read from nothing else. `IsNumeral` says
what a numeral is and what it stands for, and readers accept exactly the numerals in their range
(`readDigits_eq_some_iff`, `readUnsigned_eq_some_iff`).
-/

namespace DetectionQuery.Text

theorem isDigit_iff {c : Char} : isDigit c = true ↔ c.isDigit = true := by
  simp [isDigit, Char.isDigit, Char.le_def]

theorem isDigit_of_mem_toDigits {n : Nat} {c : Char} (h : c ∈ Nat.toDigits 10 n) :
    isDigit c = true :=
  isDigit_iff.mpr (Nat.isDigit_of_mem_toDigits (by decide) (by decide) h)

theorem digitValue_digitChar : ∀ digit < 10, digitValue digit.digitChar = some digit := by
  decide

theorem readDigitsFrom_append (base value : Nat) (cs ds : List Char) :
    readDigitsFrom base value (cs ++ ds) =
      (readDigitsFrom base value cs).bind fun leading => readDigitsFrom base leading ds := by
  induction cs generalizing value with
  | nil => rfl
  | cons c cs ih =>
    rw [List.cons_append, readDigitsFrom, readDigitsFrom]
    cases digitValue c with
    | none => rfl
    | some digit =>
      by_cases small : digit < base
      · simp only [small, if_true]
        exact ih _
      · simp only [small, if_false]
        rfl

theorem readDigitsFrom_zeros (zeros : Nat) :
    readDigitsFrom 10 0 (List.replicate zeros '0') = some 0 := by
  induction zeros with
  | zero => rfl
  | succ zeros ih =>
    rw [List.replicate_succ]
    exact ih

theorem readDigitsFrom_toDigits (n : Nat) : readDigitsFrom 10 0 (Nat.toDigits 10 n) = some n := by
  induction n using Nat.strongRecOn with
  | ind n ih =>
    rw [Nat.toDigits_eq_if (by decide)]
    split
    · next small =>
      rw [readDigitsFrom, digitValue_digitChar n small]
      simp [small, readDigitsFrom]
    · next large =>
      have last : n % 10 < 10 := Nat.mod_lt n (by decide)
      rw [readDigitsFrom_append, ih (n / 10) (by omega), Option.bind_some, readDigitsFrom,
        digitValue_digitChar (n % 10) last]
      simp only [last, if_true, readDigitsFrom, Option.some.injEq]
      omega

/-- A number is read back from its decimal digits, whatever zeros stand before them. -/
theorem readDigits_toDigits (zeros n : Nat) :
    readDigits 10 (List.replicate zeros '0' ++ Nat.toDigits 10 n) = some n := by
  have digits : readDigitsFrom 10 0 (List.replicate zeros '0' ++ Nat.toDigits 10 n) = some n := by
    rw [readDigitsFrom_append, readDigitsFrom_zeros, Option.bind_some, readDigitsFrom_toDigits]
  cases chars : List.replicate zeros '0' ++ Nat.toDigits 10 n with
  | nil => exact absurd (List.append_eq_nil_iff.mp chars).2 Nat.toDigits_ne_nil
  | cons c cs =>
    rw [chars] at digits
    exact digits

/-! ### Only digits are read -/

theorem isDigit_of_digitValue {c : Char} {digit : Nat} (h : digitValue c = some digit)
    (small : digit < 10) : isDigit c = true := by
  unfold digitValue at h
  split at h
  · next range => simpa [isDigit] using range
  · split at h
    · cases h
      omega
    · split at h
      · cases h
        omega
      · cases h

theorem exists_digitChar {c : Char} (h : isDigit c = true) : ∃ digit < 10, digit.digitChar = c := by
  simp only [isDigit, Bool.and_eq_true, decide_eq_true_eq] at h
  have bounds : 48 ≤ c.toNat ∧ c.toNat ≤ 57 := h
  have small : c.toNat - 48 < 10 := by omega
  refine ⟨c.toNat - 48, small, ?_⟩
  rw [← Char.toNat_inj, Nat.toNat_digitChar_of_lt_ten small]
  omega

theorem digitChar_of_digitValue {c : Char} {digit : Nat} (h : digitValue c = some digit)
    (small : digit < 10) : digit.digitChar = c := by
  obtain ⟨other, hother, rfl⟩ := exists_digitChar (isDigit_of_digitValue h small)
  rw [digitValue_digitChar other hother] at h
  cases h
  rfl

/-- One more digit is the first of those that are still to be read. -/
theorem readDigitsFrom_cons_eq_some_iff {value n : Nat} {c : Char} {cs : List Char} :
    readDigitsFrom 10 value (c :: cs) = some n ↔
      ∃ digit < 10, digit.digitChar = c ∧ readDigitsFrom 10 (value * 10 + digit) cs = some n := by
  rw [readDigitsFrom]
  constructor
  · intro h
    split at h
    · next digit hdigit =>
      split at h
      · next small => exact ⟨digit, small, digitChar_of_digitValue hdigit small, h⟩
      · cases h
    · cases h
  · rintro ⟨digit, small, rfl, h⟩
    simp [digitValue_digitChar digit small, small, h]

theorem isDigit_of_readDigitsFrom {value n : Nat} {cs : List Char}
    (h : readDigitsFrom 10 value cs = some n) : ∀ c ∈ cs, isDigit c = true := by
  induction cs generalizing value with
  | nil => simp
  | cons c cs ih =>
    obtain ⟨digit, small, rfl, rest⟩ := readDigitsFrom_cons_eq_some_iff.mp h
    intro d mem
    rcases List.mem_cons.mp mem with rfl | later
    · exact isDigit_of_digitValue (digitValue_digitChar digit small) small
    · exact ih rest d later

theorem isDigit_of_readDigits {n : Nat} {cs : List Char} (h : readDigits 10 cs = some n) :
    ∀ c ∈ cs, isDigit c = true := by
  cases cs with
  | nil => cases h
  | cons c cs => exact isDigit_of_readDigitsFrom h

/-- Every run of digits is read. -/
theorem exists_readDigits {cs : List Char} (nonempty : cs ≠ []) (h : ∀ c ∈ cs, isDigit c = true) :
    ∃ n, readDigits 10 cs = some n := by
  have readFrom (value : Nat) : ∃ n, readDigitsFrom 10 value cs = some n := by
    clear nonempty
    induction cs generalizing value with
    | nil => exact ⟨value, rfl⟩
    | cons c cs ih =>
      obtain ⟨digit, small, same⟩ := exists_digitChar (h c List.mem_cons_self)
      obtain ⟨n, rest⟩ := ih (fun d mem => h d (List.mem_cons_of_mem _ mem)) _
      exact ⟨n, readDigitsFrom_cons_eq_some_iff.mpr ⟨_, small, same, rest⟩⟩
  cases cs with
  | nil => exact absurd rfl nonempty
  | cons c cs => exact readFrom 0

/-! ### A number is read from its own digits -/

/-- Digits behind a number other than zero are its further digits. -/
theorem toDigits_of_readDigitsFrom {value n : Nat} {cs : List Char} (positive : 0 < value)
    (h : readDigitsFrom 10 value cs = some n) :
    Nat.toDigits 10 n = Nat.toDigits 10 value ++ cs := by
  induction cs generalizing value with
  | nil =>
    cases h
    rw [List.append_nil]
  | cons c cs ih =>
    obtain ⟨digit, small, rfl, rest⟩ := readDigitsFrom_cons_eq_some_iff.mp h
    have front : (value * 10 + digit) / 10 = value := by omega
    have last : (value * 10 + digit) % 10 = digit := by omega
    have large : ¬ value * 10 + digit < 10 := by omega
    rw [ih (by omega) rest, Nat.toDigits_eq_if (by decide), if_neg large, front, last,
      List.append_assoc, List.singleton_append]

/-- A number is read from its decimal digits with zeros before them. -/
theorem eq_toDigits_of_readDigits {n : Nat} {cs : List Char} (h : readDigits 10 cs = some n) :
    ∃ zeros, cs = List.replicate zeros '0' ++ Nat.toDigits 10 n := by
  induction cs with
  | nil => cases h
  | cons c cs ih =>
    obtain ⟨digit, small, rfl, rest⟩ := readDigitsFrom_cons_eq_some_iff.mp h
    rw [Nat.zero_mul, Nat.zero_add] at rest
    by_cases zero : digit = 0
    · subst zero
      cases cs with
      | nil =>
        cases rest
        exact ⟨0, rfl⟩
      | cons d cs =>
        obtain ⟨zeros, same⟩ := ih rest
        exact ⟨zeros + 1, by rw [same]; rfl⟩
    · refine ⟨0, ?_⟩
      rw [toDigits_of_readDigitsFrom (by omega) rest, Nat.toDigits_of_lt_base small]
      rfl

/-! ### Numerals -/

/-- The characters are a decimal numeral for the number: at least one digit, and only digits, of
which the first weighs most. -/
structure IsNumeral (cs : List Char) (n : Nat) : Prop where
  nonempty : cs ≠ []
  digits : ∀ c ∈ cs, c.isDigit = true
  value : Nat.ofDigitChars 10 cs 0 = n

theorem isNumeral_toDigits (n : Nat) : IsNumeral (Nat.toDigits 10 n) n where
  nonempty := Nat.toDigits_ne_nil
  digits _ := Nat.isDigit_of_mem_toDigits (by decide) (by decide)
  value := Nat.ofDigitChars_ten_toDigits

theorem ofDigitChars_of_readDigitsFrom {value n : Nat} {cs : List Char}
    (h : readDigitsFrom 10 value cs = some n) : Nat.ofDigitChars 10 cs value = n := by
  induction cs generalizing value with
  | nil =>
    cases h
    rfl
  | cons c cs ih =>
    obtain ⟨digit, small, rfl, rest⟩ := readDigitsFrom_cons_eq_some_iff.mp h
    have weight : digit.digitChar.toNat - '0'.toNat = digit :=
      Nat.toNat_digitChar_sub_48_of_lt_ten small
    rw [Nat.ofDigitChars_cons, weight, Nat.mul_comm]
    exact ih rest

theorem readDigits_eq_some_iff {cs : List Char} {n : Nat} :
    readDigits 10 cs = some n ↔ IsNumeral cs n := by
  have value_of_readDigits {m : Nat} (h : readDigits 10 cs = some m) :
      Nat.ofDigitChars 10 cs 0 = m := by
    cases cs with
    | nil => cases h
    | cons c cs => exact ofDigitChars_of_readDigitsFrom h
  constructor
  · intro h
    refine ⟨?_, fun c mem => isDigit_iff.mp (isDigit_of_readDigits h c mem), value_of_readDigits h⟩
    rintro rfl
    cases h
  · rintro ⟨nonempty, digits, rfl⟩
    obtain ⟨m, h⟩ := exists_readDigits nonempty fun c mem => isDigit_iff.mpr (digits c mem)
    rw [h, value_of_readDigits h]

theorem IsNumeral.ne_plus {cs rest : List Char} {n : Nat} (h : IsNumeral cs n) :
    cs ≠ '+' :: rest := by
  rintro rfl
  exact absurd (h.digits '+' List.mem_cons_self) (by decide)

/-- An unsigned number is a numeral, behind one `+` or none, for a number below the bound. -/
theorem readUnsigned_eq_some_iff {bound n : Nat} {cs : List Char} :
    readUnsigned 10 bound cs = some n ↔
      n < bound ∧ ∃ digits, (cs = digits ∨ cs = '+' :: digits) ∧ IsNumeral digits n := by
  have below {read : Option Nat} :
      (read.bind fun value => if value < bound then some value else none) = some n ↔
        n < bound ∧ read = some n := by
    cases read <;> grind
  unfold readUnsigned
  rw [below, and_congr_right_iff]
  intro _
  split
  · next rest =>
    rw [readDigits_eq_some_iff]
    constructor
    · intro numeral
      exact ⟨rest, .inr rfl, numeral⟩
    · rintro ⟨digits, rfl | same, numeral⟩
      · exact absurd rfl numeral.ne_plus
      · cases same
        exact numeral
  · next unsigned =>
    rw [readDigits_eq_some_iff]
    constructor
    · intro numeral
      exact ⟨cs, .inl rfl, numeral⟩
    · rintro ⟨digits, rfl | rfl, numeral⟩
      · exact numeral
      · exact absurd rfl (unsigned digits)

end DetectionQuery.Text
