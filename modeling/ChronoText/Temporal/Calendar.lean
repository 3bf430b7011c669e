import ChronoText.Field.DateTimeField
import ChronoText.Gregorian.Week
import ChronoText.Temporal.LocalDateTime

/-! Calendars, which say what number a component of a date-time is and how many digits it can have.
The ISO calendar is the Gregorian calendar with ISO weeks. -/

set_option autoImplicit false

namespace ChronoText

/-- A calendar as formats use it. Two calendars are the same when their handles are. -/
structure Calendar where
  handle : Nat
  identifier : String
  fieldValue : LocalDateTime → DateTimeField → Int
  maximumDigits : DateTimeField → Nat

namespace Iso

/-- Years are counted from one in both directions from the start of the era. -/
def yearOfEra (year : Int) : Int :=
  if 0 < year then year else 1 - year

def fieldValue (value : LocalDateTime) (field : DateTimeField) : Int :=
  let hour : Int := value.time.hour
  match field with
  | .era => if 0 < value.date.year then 1 else 0
  | .centuryOfEra => yearOfEra value.date.year / 100
  | .yearOfEra => yearOfEra value.date.year
  | .year => value.date.year
  | .weekYear => (Gregorian.weekDate value.date).1
  | .weekOfWeekYear => (Gregorian.weekDate value.date).2
  | .monthOfYear => value.date.month
  | .dayOfYear => Gregorian.dayOfYear value.date
  | .dayOfMonth => value.date.day
  | .dayOfWeek => Gregorian.dayOfWeek value.epochDay
  | .halfDayOfDay => hour / 12
  | .hourOfHalfDay => hour % 12
  | .clockHourOfHalfDay => if hour % 12 = 0 then 12 else hour % 12
  | .hourOfDay => hour
  | .clockHourOfDay => if hour = 0 then 24 else hour
  | .minuteOfHour => value.time.minute
  | .secondOfMinute => value.time.second
  | .millisOfSecond => (value.time.nanosecond / 1000000 : Nat)
  | .millisOfDay => (value.time.nanosecondOfDay / 1000000 : Nat)
  | .nanoOfSecond => value.time.nanosecond

def maximumDigits : DateTimeField → Nat
  | .era | .dayOfWeek | .halfDayOfDay => 1
  | .centuryOfEra => 4
  | .yearOfEra | .year | .weekYear => 6
  | .dayOfYear | .millisOfSecond => 3
  | .millisOfDay => 8
  | .nanoOfSecond => 9
  | .weekOfWeekYear | .monthOfYear | .dayOfMonth | .hourOfHalfDay | .clockHourOfHalfDay
  | .hourOfDay | .clockHourOfDay | .minuteOfHour | .secondOfMinute => 2

def calendar (handle : Nat) : Calendar :=
  { handle, identifier := "iso8601", fieldValue, maximumDigits }

end Iso

end ChronoText
