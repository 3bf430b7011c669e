import ChronoText.Proofs.Gregorian.Weeks
import ChronoText.Proofs.Text.Numerals
import ChronoText.Temporal.Calendar

/-! The components of a date-time lie in the ranges that reading allows them, and have no more
digits than the calendar says. Only years can be negative. -/

set_option autoImplicit false

namespace ChronoText

namespace Iso

open Gregorian

variable {value : LocalDateTime}

theorem yearOfEra_bounds {year : Int} (yearGe : minYear ≤ year) (yearLe : year ≤ maxYear) :
    1 ≤ yearOfEra year ∧ yearOfEra year ≤ 999999 := by
  unfold minYear at yearGe
  unfold maxYear at yearLe
  unfold yearOfEra
  split <;> omega

/-- Every component of a date-time is one that reading takes for the component. -/
theorem fieldValue_admitted (valid : value.IsValid) (field : DateTimeField) :
    field.admits (fieldValue value field) = true := by
  obtain ⟨date, hourLe, minuteLe, secondLe, nanosecondLe⟩ := valid
  have era := yearOfEra_bounds date.year_ge date.year_le
  have ordinal := dayOfYear_bounds date
  have days := daysInYear_le value.date.year
  have weekday := dayOfWeek_bounds value.epochDay
  have week := weekDate_bounds date
  have monthGe := date.month_ge
  have monthLe := date.month_le
  have dayGe := date.day_ge
  have dayLe := Nat.le_trans date.day_le (daysInMonth_le_thirtyOne _ _)
  cases field <;>
    simp only [DateTimeField.admits, DateTimeField.parseRange?, Bool.and_eq_true,
      decide_eq_true_eq] <;>
    simp only [fieldValue, TimeOfDay.nanosecondOfDay] <;>
    omega

theorem natAbs_fieldValue_lt (valid : value.IsValid) (field : DateTimeField) :
    (fieldValue value field).natAbs < 10 ^ maximumDigits field := by
  have admitted := fieldValue_admitted valid field
  have yearGe := valid.date.year_ge
  have yearLe := valid.date.year_le
  have week := weekDate_bounds valid.date
  unfold minYear at yearGe
  unfold maxYear at yearLe
  cases field <;>
    simp only [DateTimeField.admits, DateTimeField.parseRange?, Bool.and_eq_true,
      decide_eq_true_eq, maximumDigits] at admitted ⊢ <;>
    first | omega | (simp only [fieldValue]; omega)

theorem digitCount_fieldValue_le (valid : value.IsValid) (field : DateTimeField) :
    Text.digitCount (fieldValue value field).natAbs ≤ maximumDigits field := by
  have positive : 0 < maximumDigits field := by
    cases field <;> decide
  exact Text.digitCount_le positive (natAbs_fieldValue_lt valid field)

theorem natAbs_fieldValue_le (valid : value.IsValid) (field : DateTimeField) :
    (fieldValue value field).natAbs ≤ Text.largestRead := by
  have small := natAbs_fieldValue_lt valid field
  have few : 10 ^ maximumDigits field ≤ 10 ^ 9 :=
    Nat.pow_le_pow_right (by decide) (by cases field <;> decide)
  unfold Text.largestRead
  omega

theorem isSigned_of_fieldValue_neg (valid : value.IsValid) {field : DateTimeField}
    (negative : fieldValue value field < 0) : field.isSigned = true := by
  have admitted := fieldValue_admitted valid field
  cases field <;>
    simp only [DateTimeField.admits, DateTimeField.parseRange?, Bool.and_eq_true,
      decide_eq_true_eq] at admitted <;>
    first | rfl | omega

end Iso

end ChronoText
