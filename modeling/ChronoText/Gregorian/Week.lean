import ChronoText.Gregorian.Date

/-! Weeks and ordinal days. Weeks start on Monday, and a week belongs to the year that holds its
Thursday, so that week one of a year is the week of the fourth of January. -/

set_option autoImplicit false

namespace ChronoText.Gregorian

/-- The number of a day in its year, from one on. -/
def dayOfYear (date : Date) : Int :=
  date.epochDay - epochDay date.year 1 1 + 1

/-- The day of the week, one on Monday and seven on Sunday; 1970-01-01 was a Thursday. -/
def dayOfWeek (days : Int) : Int :=
  (days + 3) % 7 + 1

def weeksInYear (weekYear : Int) : Int :=
  let first := dayOfWeek (epochDay weekYear 1 1)
  if first = 4 ∨ (first = 3 ∧ isLeapYear weekYear) then 53 else 52

/-- The day since 1970-01-01 on which week one of a year starts. -/
def weekYearStart (weekYear : Int) : Int :=
  let fourth := epochDay weekYear 1 4
  fourth - (dayOfWeek fourth - 1)

/-- The year a date's week belongs to, and the number of the week in it. -/
def weekDate (date : Date) : Int × Int :=
  let week := (dayOfYear date - dayOfWeek date.epochDay + 10) / 7
  if week < 1 then (date.year - 1, weeksInYear (date.year - 1))
  else if weeksInYear date.year < week then (date.year + 1, 1)
  else (date.year, week)

end ChronoText.Gregorian
