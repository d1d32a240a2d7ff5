import DetectionQuery.Proofs.Text.Digits
import DetectionQuery.Rule.Timespan

/-!
The texts of timespans.

A timespan is spelled by a numeral for its count and the letter of its unit, and the numeral may
have a `+` before it and zeros in front (`Timespan.Spells`). Reading accepts these texts and no
others, and writing chooses one of them, so what is written is read back
(`Timespan.parse_reads_spellings`).
-/

namespace DetectionQuery.Rule

open DetectionQuery.Text (IsNumeral)

namespace TimeUnit

def letters : List (Char × TimeUnit) :=
  [('s', .second), ('m', .minute), ('h', .hour), ('d', .day), ('w', .week), ('M', .month),
    ('y', .year)]

theorem ofChar?_eq_some_iff {letter : Char} {unit : TimeUnit} :
    ofChar? letter = some unit ↔ (letter, unit) ∈ letters := by
  constructor
  · intro h
    unfold ofChar? at h
    split at h <;> cases h <;> simp [letters]
  · intro mem
    simp only [letters, List.mem_cons, Prod.mk.injEq, List.not_mem_nil, or_false] at mem
    rcases mem with ⟨rfl, rfl⟩ | ⟨rfl, rfl⟩ | ⟨rfl, rfl⟩ | ⟨rfl, rfl⟩ | ⟨rfl, rfl⟩ | ⟨rfl, rfl⟩ |
      ⟨rfl, rfl⟩ <;> rfl

theorem toChar_mem_letters (unit : TimeUnit) : (unit.toChar, unit) ∈ letters := by
  cases unit <;> simp [letters, toChar]

end TimeUnit

namespace Timespan

variable {text : String} {timespan : Timespan}

/-- The count is positive and fits into 64 bits. -/
def InRange (timespan : Timespan) : Prop :=
  1 ≤ timespan.count ∧ timespan.count < UInt64.size

/-- The text spells the timespan: a numeral for a count in range, with at most one `+` before it,
and the letter of the unit behind it. -/
def Spells (text : String) (timespan : Timespan) : Prop :=
  timespan.InRange ∧ ∃ sign digits letter, text.toList = sign ++ digits ++ [letter] ∧
    (sign = [] ∨ sign = ['+']) ∧ IsNumeral digits timespan.count ∧
    (letter, timespan.unit) ∈ TimeUnit.letters

theorem parse?_eq_some_iff {cs : List Char} :
    parse? cs = some timespan ↔ ∃ count letter, cs = count ++ [letter] ∧
      Text.readUnsigned 10 (Nat.pow 2 64) count = some timespan.count ∧ 1 ≤ timespan.count ∧
      (letter, timespan.unit) ∈ TimeUnit.letters := by
  unfold parse?
  constructor
  · intro h
    obtain ⟨letter, last, afterLetter⟩ := Option.bind_eq_some_iff.mp h
    obtain ⟨unit, hunit, afterUnit⟩ := Option.bind_eq_some_iff.mp afterLetter
    obtain ⟨count, hcount, result⟩ := Option.bind_eq_some_iff.mp afterUnit
    obtain ⟨front, rfl⟩ := List.getLast?_eq_some_iff.mp last
    rw [List.dropLast_concat] at hcount
    split at result
    · cases result
    · next nonzero =>
      cases result
      exact ⟨front, letter, rfl, hcount, Nat.one_le_iff_ne_zero.mpr nonzero,
        TimeUnit.ofChar?_eq_some_iff.mp hunit⟩
  · rintro ⟨count, letter, rfl, hcount, positive, mem⟩
    have nonzero := Nat.one_le_iff_ne_zero.mp positive
    simp [TimeUnit.ofChar?_eq_some_iff.mpr mem, hcount, nonzero]

/-- Reading accepts the spellings of timespans. -/
theorem parse_eq_ok_iff : parse text = .ok timespan ↔ Spells text timespan := by
  have read : parse text = .ok timespan ↔ parse? text.toList = some timespan := by
    unfold parse
    split
    · next other found => simp [found]
    · next unread => simp [unread]
  rw [read, parse?_eq_some_iff]
  simp only [Text.readUnsigned_eq_some_iff]
  constructor
  · rintro ⟨count, letter, chars, ⟨small, digits, rfl | rfl, numeral⟩, positive, mem⟩
    · exact ⟨⟨positive, small⟩, [], count, letter, chars, .inl rfl, numeral, mem⟩
    · exact ⟨⟨positive, small⟩, ['+'], digits, letter, chars, .inr rfl, numeral, mem⟩
  · rintro ⟨⟨positive, small⟩, sign, digits, letter, chars, rfl | rfl, numeral, mem⟩
    · exact ⟨digits, letter, chars, ⟨small, digits, .inl rfl, numeral⟩, positive, mem⟩
    · exact ⟨'+' :: digits, letter, chars, ⟨small, digits, .inr rfl, numeral⟩, positive, mem⟩

/-- Any other text is reported as it is. -/
theorem parse_eq_error_iff {error : Error} :
    parse text = .error error ↔
      error = .invalidTimespan text ∧ ∀ timespan, ¬ Spells text timespan := by
  simp only [← parse_eq_ok_iff]
  unfold parse
  split
  · simp
  · simp [eq_comm]

/-- Writing chooses a spelling without a sign. -/
theorem spells_toText (h : timespan.InRange) : Spells timespan.toText timespan := by
  refine ⟨h, [], Nat.toDigits 10 timespan.count, timespan.unit.toChar, ?_, .inl rfl,
    Text.isNumeral_toDigits _, timespan.unit.toChar_mem_letters⟩
  simp [toText, Nat.toString_eq_repr, Nat.toList_repr]

/-- **Timespans are read from their spellings and from nothing else.** A text is read as a timespan
exactly if it spells it, and any other text is an error that carries it. Every timespan in range is
read back from the text it is written as, and so is whatever timespan a text is read as. -/
theorem parse_reads_spellings :
    (∀ text timespan, parse text = .ok timespan ↔ Spells text timespan) ∧
    (∀ text, (∀ timespan, ¬ Spells text timespan) → parse text = .error (.invalidTimespan text)) ∧
    (∀ timespan : Timespan, timespan.InRange → parse timespan.toText = .ok timespan) ∧
    (∀ text timespan, parse text = .ok timespan → parse timespan.toText = .ok timespan) := by
  refine ⟨fun text timespan => parse_eq_ok_iff, fun text none => ?_, fun timespan range => ?_,
    fun text timespan read => ?_⟩
  · exact parse_eq_error_iff.mpr ⟨rfl, none⟩
  · exact parse_eq_ok_iff.mpr (spells_toText range)
  · have spelled := parse_eq_ok_iff.mp read
    exact parse_eq_ok_iff.mpr (spells_toText spelled.1)

/-- A count with a sign and zeros is read, and written again without them. -/
theorem parse_reads_spellings_signed :
    Spells "+007m" ⟨7, .minute⟩ ∧ parse "+007m" = .ok ⟨7, .minute⟩ ∧
      parse (toText ⟨7, .minute⟩) = .ok ⟨7, .minute⟩ := by
  have spelled : Spells "+007m" ⟨7, .minute⟩ := by
    refine ⟨⟨by decide, by decide⟩, ['+'], ['0', '0', '7'], 'm', rfl, .inr rfl, ?_, by decide⟩
    exact ⟨by simp, by simp, rfl⟩
  have read := (parse_reads_spellings.1 _ _).mpr spelled
  exact ⟨spelled, read, parse_reads_spellings.2.2.2 _ _ read⟩

-- The largest count is one below the size of 64 bits.
example : parse? "18446744073709551615y".toList = some ⟨18446744073709551615, .year⟩ ∧
    parse? "18446744073709551616y".toList = none := by
  decide

end Timespan

end DetectionQuery.Rule
