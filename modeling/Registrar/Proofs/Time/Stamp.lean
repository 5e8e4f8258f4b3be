import Mathlib.Algebra.Group.Nat.Defs
import Registrar.Proofs.Time.Calendar
import Registrar.Time.Stamp

/-!
# Stamps read back

The stamp of a whole second in a year of four digits is read as that second again. The parts of a
stamp have a fixed width, so each of them is read without a look at what follows it.
-/

namespace Registrar.Instant

/-- Whether the year of an instant is written with four digits and without a sign. -/
def HasFourDigitYear (instant : Instant) : Prop :=
  0 ≤ instant.date.year ∧ instant.date.year ≤ 9999

instance (instant : Instant) : Decidable instant.HasFourDigitYear :=
  inferInstanceAs (Decidable (_ ∧ _))

@[simp]
theorem hasFourDigitYear_truncated (instant : Instant) :
    instant.truncated.HasFourDigitYear ↔ instant.HasFourDigitYear := Iff.rfl

theorem length_paddedDigits {width value : Nat} (positive : 0 < width)
    (fits : value < 10 ^ width) : (paddedDigits width value).length = width := by
  have short : (Nat.toDigits 10 value).length ≤ width :=
    (Nat.length_toDigits_le_iff (by omega) positive).2 fits
  simp only [paddedDigits, List.length_append, List.length_replicate]
  omega

theorem isDigit_of_mem_paddedDigits {width value : Nat} {character : Char}
    (member : character ∈ paddedDigits width value) : character.isDigit = true := by
  simp only [paddedDigits, List.mem_append, List.mem_replicate] at member
  rcases member with ⟨_, rfl⟩ | digit
  · rfl
  · exact Nat.isDigit_of_mem_toDigits (by omega) (by omega) digit

theorem ofDigitChars_paddedDigits (width value : Nat) :
    Nat.ofDigitChars 10 (paddedDigits width value) 0 = value := by
  simp [paddedDigits, Nat.ofDigitChars_append, Nat.ofDigitChars_replicate_zero]

theorem readNumber?_paddedDigits {width value : Nat} (positive : 0 < width)
    (fits : value < 10 ^ width) (rest : List Char) :
    readNumber? width (paddedDigits width value ++ rest) = some (value, rest) := by
  have length := length_paddedDigits positive fits
  have digits : (paddedDigits width value ++ rest).take width = paddedDigits width value := by
    simp [length]
  have left : (paddedDigits width value ++ rest).drop width = rest := by
    simp [length]
  have all : (paddedDigits width value).all Char.isDigit = true :=
    List.all_eq_true.2 fun _ member => isDigit_of_mem_paddedDigits member
  simp only [readNumber?, digits, left]
  rw [if_pos ⟨length, all⟩, ofDigitChars_paddedDigits]

theorem readDate?_ofDays {days : Int} (rest : List Char)
    (year : 0 ≤ (Date.ofDays days).year ∧ (Date.ofDays days).year ≤ 9999) :
    readDate? (paddedDigits 4 (Date.ofDays days).year.toNat ++
      '-' :: (paddedDigits 2 (Date.ofDays days).month ++
        '-' :: (paddedDigits 2 (Date.ofDays days).day ++ rest))) =
      some (Date.ofDays days, rest) := by
  have month := Date.month_ofDays days
  have day := Date.day_ofDays days
  have date : (⟨((Date.ofDays days).year.toNat : Int), (Date.ofDays days).month,
      (Date.ofDays days).day⟩ : Date) = Date.ofDays days := by
    rw [Int.toNat_of_nonneg year.1]
  simp only [readDate?]
  rw [readNumber?_paddedDigits (by omega) (by omega)]
  simp only [Option.bind_eq_bind, Option.bind_some, after?, if_true]
  rw [readNumber?_paddedDigits (by omega) (by omega)]
  simp only [Option.bind_some, if_true]
  rw [readNumber?_paddedDigits (by omega) (by omega)]
  simp only [Option.bind_some, date, Date.isValid_ofDays, if_true]

theorem readTime?_clock {second : Nat} (bound : second < 86400) :
    readTime? (paddedDigits 2 (second / 3600) ++ ':' :: (paddedDigits 2 (second / 60 % 60) ++
      ':' :: (paddedDigits 2 (second % 60) ++ ['Z']))) = some (second, 0, ['Z']) := by
  simp only [readTime?]
  rw [readNumber?_paddedDigits (by omega) (by omega)]
  simp only [Option.bind_eq_bind, Option.bind_some, after?, if_true]
  rw [readNumber?_paddedDigits (by omega) (by omega)]
  simp only [Option.bind_some, if_true]
  rw [readNumber?_paddedDigits (by omega) (by omega)]
  have fraction : readFraction? ['Z'] = some (0, ['Z']) := rfl
  simp only [Option.bind_some, fraction]
  rw [if_pos (by omega), if_neg (by omega)]
  simp only [Option.some.injEq, Prod.mk.injEq, and_true]
  omega

/-- The stamp of a whole second in a year of four digits, part by part. -/
theorem stamp_eq {instant : Instant} (year : instant.HasFourDigitYear)
    (whole : instant.nanoseconds = 0) :
    instant.stamp = paddedDigits 4 instant.date.year.toNat ++
      '-' :: (paddedDigits 2 instant.date.month ++ '-' :: (paddedDigits 2 instant.date.day ++
        'T' :: (paddedDigits 2 ((instant.seconds % secondsOfDay).toNat / 3600) ++
          ':' :: (paddedDigits 2 ((instant.seconds % secondsOfDay).toNat / 60 % 60) ++
            ':' :: (paddedDigits 2 ((instant.seconds % secondsOfDay).toNat % 60) ++ ['Z']))))) := by
  have four : (0 ≤ instant.date.year && instant.date.year ≤ 9999) = true := by
    simpa [HasFourDigitYear] using year
  simp [stamp, clockText, yearText, four, whole]

/-- A whole second in a year of four digits is read from its stamp. -/
theorem ofStamp?_stamp {instant : Instant} (year : instant.HasFourDigitYear)
    (whole : instant.nanoseconds = 0) : ofStamp? instant.stamp = some instant := by
  rcases instant with ⟨seconds, nanoseconds⟩
  subst whole
  have bound : (seconds % secondsOfDay).toNat < 86400 := by
    simp only [secondsOfDay]
    omega
  rw [stamp_eq year rfl, ofStamp?, date, readDate?_ofDays _ year]
  simp only [Option.bind_eq_bind, Option.bind_some, afterDateMark?]
  rw [readTime?_clock bound]
  simp only [Option.bind_some, readOffset?, List.isEmpty_nil, if_true, Date.toDays_ofDays,
    Option.some.injEq, Instant.mk.injEq, and_true]
  simp only [secondsOfDay]
  omega

theorem mem_yearText {year : Int} {character : Char} (member : character ∈ yearText year) :
    character.isDigit = true ∨ character ∈ ['+', '-'] := by
  rw [yearText] at member
  split at member
  · exact Or.inl (isDigit_of_mem_paddedDigits member)
  · rcases List.mem_cons.1 member with rfl | digit
    · split <;> simp
    · exact Or.inl (isDigit_of_mem_paddedDigits digit)

/-- The characters of a stamp. -/
theorem mem_stamp {instant : Instant} {character : Char} (member : character ∈ instant.stamp) :
    character.isDigit = true ∨ character ∈ ['+', '-', 'T', ':', 'Z'] := by
  simp only [stamp, clockText, List.mem_append, List.mem_cons, List.not_mem_nil, or_false]
    at member ⊢
  rcases member with
    (((((year | rfl | digit) | rfl | digit) | rfl | digit) | rfl | digit) | rfl | digit) | rfl
  · rcases mem_yearText year with digit | sign
    · exact Or.inl digit
    · simp only [List.mem_cons, List.not_mem_nil, or_false] at sign
      rcases sign with rfl | rfl <;> simp
  all_goals first
    | exact Or.inl (isDigit_of_mem_paddedDigits digit)
    | simp

theorem le_length_paddedDigits (width value : Nat) : width ≤ (paddedDigits width value).length := by
  simp only [paddedDigits, List.length_append, List.length_replicate]
  omega

/-- No stamp is shorter than that of a whole second in a year of four digits. -/
theorem le_length_stamp (instant : Instant) : 20 ≤ instant.stamp.length := by
  have years : 4 ≤ (yearText instant.date.year).length := by
    rw [yearText]
    split
    · exact le_length_paddedDigits 4 _
    · exact Nat.le_succ_of_le (le_length_paddedDigits 4 _)
  have pair := le_length_paddedDigits 2
  simp only [stamp, clockText, List.length_append, List.length_cons, List.length_nil]
  have month := pair instant.date.month
  have day := pair instant.date.day
  have hour := pair ((instant.seconds % secondsOfDay).toNat / 3600)
  have minute := pair ((instant.seconds % secondsOfDay).toNat / 60 % 60)
  have second := pair ((instant.seconds % secondsOfDay).toNat % 60 +
    instant.nanoseconds / nanosecondsOfSecond)
  omega

end Registrar.Instant
