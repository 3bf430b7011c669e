import ChronoText.Proofs.Parsing.ResolutionInWords
import ChronoText.Temporal.SupportedYears

/-! The years in which days are counted. Resolution checks a year before it counts in it, whatever the
components are. A component of a date-time is worked out in the year of the date alone, but for the
two of the week: before its first week a year asks the year before. The least supported year has three
such days, and for them that year is missing. -/

set_option autoImplicit false

namespace ChronoText

namespace Gregorian

/-! ## Days of a date -/

section Years

variable {year : Int} (yearGe : minYear ≤ year) (yearLe : year ≤ maxYear)

include yearGe yearLe

theorem epochDay?_eq_some (month day : Nat) :
    epochDay? year month day = some (epochDay year month day) :=
  if_pos ⟨yearGe, yearLe⟩

theorem weeksInYear?_eq_some : weeksInYear? year = some (weeksInYear year) := by
  rw [weeksInYear?, epochDay?_eq_some yearGe yearLe]
  rfl

theorem weekYearStart?_eq_some : weekYearStart? year = some (weekYearStart year) := by
  rw [weekYearStart?, epochDay?_eq_some yearGe yearLe]
  rfl

end Years

variable {date : Date}

theorem dayOfYear?_eq_some (valid : date.IsValid) : dayOfYear? date = some (dayOfYear date) := by
  have counted := epochDay?_eq_some valid.year_ge valid.year_le
  rw [dayOfYear?, counted, counted]
  rfl

/-- The least year starts on a Friday, so that its first week starts on its fourth day. -/
theorem week_lt_one_iff (valid : date.IsValid) (least : date.year = minYear) :
    (dayOfYear date - dayOfWeek date.epochDay + 10) / 7 < 1 ↔ date.month = 1 ∧ date.day ≤ 3 := by
  have early := dayOfYear_le_iff valid (show 3 ≤ 31 by decide)
  have fromFirst := (dayOfYear_bounds valid).1
  have first : epochDay date.year 1 1 = -100000109 := by
    rw [least]
    decide
  have number : dayOfYear date = date.epochDay - epochDay date.year 1 1 + 1 := rfl
  rw [← early]
  unfold dayOfWeek
  omega

theorem weekDate?_eq (valid : date.IsValid) :
    weekDate? date =
      if date.year = minYear ∧ date.month = 1 ∧ date.day ≤ 3 then none else some (weekDate date) := by
  have counted := epochDay?_eq_some valid.year_ge valid.year_le date.month date.day
  have own : epochDay date.year date.month date.day = date.epochDay := rfl
  have yearGe := valid.year_ge
  have yearLe := valid.year_le
  rw [weekDate?, counted, dayOfYear?_eq_some valid, own]
  simp only [Option.bind_eq_bind, Option.bind_some, weekDate]
  by_cases early : (dayOfYear date - dayOfWeek date.epochDay + 10) / 7 < 1
  · rw [if_pos early, if_pos early]
    by_cases least : date.year = minYear
    · have missing : weeksInYear? (date.year - 1) = none := by
        rw [least]
        rfl
      rw [missing, if_pos ⟨least, (week_lt_one_iff valid least).mp early⟩]
      rfl
    · rw [weeksInYear?_eq_some (by omega) (by omega), if_neg fun first => least first.1]
      rfl
  · have inYear : ¬ (date.year = minYear ∧ date.month = 1 ∧ date.day ≤ 3) :=
      fun ⟨least, first⟩ => early ((week_lt_one_iff valid least).mpr first)
    rw [if_neg early, if_neg early, if_neg inYear, weeksInYear?_eq_some yearGe yearLe]
    exact (apply_ite some _ _ _).symm

end Gregorian

open Gregorian

/-! ## Components of a date-time -/

/-- Only the week of a day before the first week of the least year cannot be counted. -/
theorem Iso.fieldValue?_eq {value : LocalDateTime} (valid : value.IsValid) (field : DateTimeField) :
    fieldValue? value field =
      if (field = .weekYear ∨ field = .weekOfWeekYear) ∧ value.date.year = minYear ∧
          value.date.month = 1 ∧ value.date.day ≤ 3 then none
      else some (fieldValue value field) := by
  have week := weekDate?_eq valid.date
  cases field with
  | weekYear | weekOfWeekYear =>
      simp only [fieldValue?, week, fieldValue, reduceCtorEq, true_or, or_true, true_and]
      split <;> rfl
  | dayOfYear => exact dayOfYear?_eq_some valid.date
  | dayOfWeek =>
      rw [fieldValue?, epochDay?_eq_some valid.date.year_ge valid.date.year_le]
      rfl
  | _ => rfl

/-! ## Resolution -/

/-- A computation that can fail. It has no result, and no failure either, where it counts days in a
year that is not supported. -/
abbrev Counted (α : Type) := ExceptT Failure Option α

namespace Bucket

open InWords (ofResult bind_held ofResult_bind)

def dayOfWeekDate? (bucket : Bucket) : Counted Int := do
  let weekYear ← ofResult bucket.weekYear
  let week := (bucket.fields .weekOfWeekYear).getD 1
  let weeks ← weeksInYear? weekYear
  if weeks < week then
    throw (outOfRange week .weekOfWeekYear)
  else do
    let start ← weekYearStart? weekYear
    pure (wrapped 32 (start + (week - 1) * 7 + (bucket.fields .dayOfWeek).getD 1 - 1))

def dayOfOrdinalDate? (bucket : Bucket) (dayOfYear : Int) : Counted Int := do
  let year ← ofResult bucket.year
  if (daysInYear year : Int) < dayOfYear then
    throw (outOfRange dayOfYear .dayOfYear)
  else do
    let first ← Gregorian.epochDay? year 1 1
    pure (wrapped 32 (first + dayOfYear - 1))

def dayOfCalendarDate? (bucket : Bucket) : Counted Int := do
  let year ← ofResult bucket.year
  let month := narrowed 8 ((bucket.fields .monthOfYear).getD 1)
  let day := (bucket.fields .dayOfMonth).getD 1
  if (daysInMonth year month : Int) < day then
    throw (outOfRange day .dayOfMonth)
  else
    Gregorian.epochDay? year month (narrowed 8 day)

def epochDay? (bucket : Bucket) : Counted Int :=
  if bucket.hasMonthOrDay then bucket.dayOfCalendarDate?
  else if bucket.hasWeek then bucket.dayOfWeekDate?
  else
    match bucket.fields .dayOfYear with
    | some dayOfYear => bucket.dayOfOrdinalDate? dayOfYear
    | none => bucket.dayOfCalendarDate?

/-- The date-time of a day that was counted. -/
def localOf (bucket : Bucket) (day : Int) : Except Failure LocalDateTime := do
  match bucket.fields .dayOfWeek with
  | some dayOfWeek =>
    if dayOfWeekOf day ≠ dayOfWeek then throw (outOfRange dayOfWeek .dayOfWeek)
  | none => pure ()
  match LocalDateTime.ofParts (dateOfEpochDay day) bucket.timeOfDay with
  | .ok value => pure value
  | .error _ => throw { kind := .noSuchValue, params := [.text "LocalDateTime"] }

def toLocal? (bucket : Bucket) : Counted LocalDateTime := do
  let day ← bucket.epochDay?
  ofResult (bucket.localOf day)

theorem toLocal_eq_bind (bucket : Bucket) : bucket.toLocal = bucket.epochDay >>= bucket.localOf :=
  rfl

theorem supported_of_year {bucket : Bucket} {year : Int} (found : bucket.year = .ok year) :
    minYear ≤ year ∧ year ≤ maxYear :=
  (checkedYear_eq_ok_iff.mp found).2

theorem supported_of_weekYear {bucket : Bucket} {weekYear : Int}
    (found : bucket.weekYear = .ok weekYear) : minYear ≤ weekYear ∧ weekYear ≤ maxYear := by
  unfold Bucket.weekYear at found
  split at found
  · exact (checkedYear_eq_ok_iff.mp found).2
  · exact supported_of_year found

theorem dayOfWeekDate?_eq (bucket : Bucket) :
    bucket.dayOfWeekDate? = ofResult bucket.dayOfWeekDate := by
  rw [dayOfWeekDate_eq_bind]
  apply ofResult_bind
  intro weekYear found
  obtain ⟨yearGe, yearLe⟩ := supported_of_weekYear found
  refine bind_held (weeksInYear?_eq_some yearGe yearLe) ?_
  unfold dayInWeekYear
  dsimp only
  split
  · rfl
  · exact bind_held (weekYearStart?_eq_some yearGe yearLe) rfl

theorem dayOfOrdinalDate?_eq (bucket : Bucket) (dayOfYear : Int) :
    bucket.dayOfOrdinalDate? dayOfYear = ofResult (bucket.dayOfOrdinalDate dayOfYear) := by
  apply ofResult_bind
  intro year found
  obtain ⟨yearGe, yearLe⟩ := supported_of_year found
  split
  · rfl
  · exact bind_held (epochDay?_eq_some yearGe yearLe 1 1) rfl

theorem dayOfCalendarDate?_eq (bucket : Bucket) :
    bucket.dayOfCalendarDate? = ofResult bucket.dayOfCalendarDate := by
  apply ofResult_bind
  intro year found
  obtain ⟨yearGe, yearLe⟩ := supported_of_year found
  dsimp only
  split
  · rfl
  · rw [epochDay?_eq_some yearGe yearLe]
    rfl

theorem epochDay?_eq (bucket : Bucket) : bucket.epochDay? = ofResult bucket.epochDay := by
  unfold epochDay? Bucket.epochDay hasWeek
  dsimp only
  split
  · exact dayOfCalendarDate?_eq bucket
  · split
    · exact dayOfWeekDate?_eq bucket
    · cases bucket.fields .dayOfYear with
      | some dayOfYear => exact dayOfOrdinalDate?_eq bucket dayOfYear
      | none => exact dayOfCalendarDate?_eq bucket

/-- Whatever the components are, resolution counts in supported years only. -/
theorem toLocal?_eq (bucket : Bucket) : bucket.toLocal? = ofResult bucket.toLocal := by
  rw [toLocal?, epochDay?_eq, toLocal_eq_bind]
  exact ofResult_bind fun day _ => rfl

/-- Days are counted in supported years, with one exception. The two components of the week have no
result on the three days before the first week of the least year, and all other components of valid
date-times are what they are. Resolution has a result for every bucket. -/
theorem days_counted_in_supported_years {value : LocalDateTime} (valid : value.IsValid)
    (field : DateTimeField) (bucket : Bucket) :
    (Iso.fieldValue? value field =
      if (field = .weekYear ∨ field = .weekOfWeekYear) ∧ value.date.year = minYear ∧
          value.date.month = 1 ∧ value.date.day ≤ 3 then none
      else some (Iso.fieldValue value field)) ∧
    bucket.toLocal?.run = some bucket.toLocal := by
  refine ⟨Iso.fieldValue?_eq valid field, ?_⟩
  rw [toLocal?_eq]
  rfl

/-- The last day without a week and the first with one. -/
theorem days_counted_in_supported_years_least :
    LocalDateTime.IsValid ⟨⟨-271821, 1, 3⟩, .midnight⟩ ∧
    LocalDateTime.IsValid ⟨⟨-271821, 1, 4⟩, .midnight⟩ ∧
    Iso.fieldValue? ⟨⟨-271821, 1, 3⟩, .midnight⟩ .weekYear = none ∧
    Iso.fieldValue? ⟨⟨-271821, 1, 4⟩, .midnight⟩ .weekYear = some (-271821) := by
  have third : LocalDateTime.IsValid ⟨⟨-271821, 1, 3⟩, .midnight⟩ :=
    ⟨january_isValid (by decide) (by decide) (by decide) (by decide), TimeOfDay.midnight_isValid⟩
  have fourth : LocalDateTime.IsValid ⟨⟨-271821, 1, 4⟩, .midnight⟩ :=
    ⟨january_isValid (by decide) (by decide) (by decide) (by decide), TimeOfDay.midnight_isValid⟩
  refine ⟨third, fourth, ?_, ?_⟩
  · rw [(days_counted_in_supported_years third .weekYear .empty).1]
    decide
  · rw [(days_counted_in_supported_years fourth .weekYear .empty).1]
    decide

/-- On the first supported day, the year of the week would be counted in the year before. -/
theorem week_of_first_day_uncounted :
    ¬ ∀ value : LocalDateTime, value.IsValid → ∀ field : DateTimeField,
      (Iso.fieldValue? value field).isSome = true := by
  intro counted
  have first : LocalDateTime.IsValid ⟨⟨-271821, 1, 1⟩, .midnight⟩ :=
    ⟨firstDate_isValid, TimeOfDay.midnight_isValid⟩
  exact absurd (counted _ first .weekYear) (by decide)

end Bucket

end ChronoText
