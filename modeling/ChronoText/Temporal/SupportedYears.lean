import ChronoText.Temporal.Calendar

/-! Components of a date-time as far as they can be counted. Days are counted for the supported years
only, and asking for the count in any other year is a mistake. Here the count has no result in such a
year, and neither has what is made of it. -/

set_option autoImplicit false

namespace ChronoText

namespace Gregorian

/-- The days since 1970-01-01, for a date of a supported year. -/
def epochDay? (year : Int) (month day : Nat) : Option Int :=
  if minYear ≤ year ∧ year ≤ maxYear then some (epochDay year month day) else none

def dayOfYear? (date : Date) : Option Int := do
  let own ← epochDay? date.year date.month date.day
  let first ← epochDay? date.year 1 1
  pure (own - first + 1)

def weeksInYear? (weekYear : Int) : Option Int := do
  let first ← epochDay? weekYear 1 1
  let weekday := dayOfWeek first
  pure (if weekday = 4 ∨ (weekday = 3 ∧ isLeapYear weekYear) then 53 else 52)

def weekYearStart? (weekYear : Int) : Option Int := do
  let fourth ← epochDay? weekYear 1 4
  pure (fourth - (dayOfWeek fourth - 1))

/-- The week of a date. Before its first week a year asks the year before for its last one. -/
def weekDate? (date : Date) : Option (Int × Int) := do
  let own ← epochDay? date.year date.month date.day
  let ordinal ← dayOfYear? date
  let week := (ordinal - dayOfWeek own + 10) / 7
  if week < 1 then
    let weeks ← weeksInYear? (date.year - 1)
    pure (date.year - 1, weeks)
  else
    let weeks ← weeksInYear? date.year
    if weeks < week then pure (date.year + 1, 1) else pure (date.year, week)

end Gregorian

/-- A component of a date-time, none if days would be counted in a year that is not supported. -/
def Iso.fieldValue? (value : LocalDateTime) (field : DateTimeField) : Option Int :=
  match field with
  | .weekYear => (Gregorian.weekDate? value.date).map (·.1)
  | .weekOfWeekYear => (Gregorian.weekDate? value.date).map (·.2)
  | .dayOfYear => Gregorian.dayOfYear? value.date
  | .dayOfWeek =>
    (Gregorian.epochDay? value.date.year value.date.month value.date.day).map Gregorian.dayOfWeek
  | .era | .centuryOfEra | .yearOfEra | .year | .monthOfYear | .dayOfMonth | .halfDayOfDay
  | .hourOfHalfDay | .clockHourOfHalfDay | .hourOfDay | .clockHourOfDay | .minuteOfHour
  | .secondOfMinute | .millisOfSecond | .millisOfDay | .nanoOfSecond => some (fieldValue value field)

end ChronoText
