/-! The components of a date-time that can be printed and parsed, each with its name, the range of
its values where that range does not depend on the other components, and whether it can be
negative. -/

set_option autoImplicit false

namespace ChronoText

inductive DateTimeField where
  /-- Zero before the common era and one within it. -/
  | era
  | centuryOfEra
  | yearOfEra
  | year
  /-- The year of the ISO week date. -/
  | weekYear
  | weekOfWeekYear
  | monthOfYear
  | dayOfYear
  | dayOfMonth
  /-- One on Monday, seven on Sunday. -/
  | dayOfWeek
  /-- Zero in the morning, one in the afternoon. -/
  | halfDayOfDay
  | hourOfHalfDay
  /-- The hour of the half day with twelve in place of zero. -/
  | clockHourOfHalfDay
  | hourOfDay
  /-- The hour of the day with twenty-four in place of zero. -/
  | clockHourOfDay
  | minuteOfHour
  | secondOfMinute
  | millisOfSecond
  | millisOfDay
  | nanoOfSecond
  deriving DecidableEq

namespace DateTimeField

def all : List DateTimeField :=
  [era, centuryOfEra, yearOfEra, year, weekYear, weekOfWeekYear, monthOfYear, dayOfYear,
    dayOfMonth, dayOfWeek, halfDayOfDay, hourOfHalfDay, clockHourOfHalfDay, hourOfDay,
    clockHourOfDay, minuteOfHour, secondOfMinute, millisOfSecond, millisOfDay, nanoOfSecond]

def name : DateTimeField → String
  | era => "era"
  | centuryOfEra => "centuryOfEra"
  | yearOfEra => "yearOfEra"
  | year => "year"
  | weekYear => "weekyear"
  | weekOfWeekYear => "weekOfWeekyear"
  | monthOfYear => "monthOfYear"
  | dayOfYear => "dayOfYear"
  | dayOfMonth => "dayOfMonth"
  | dayOfWeek => "dayOfWeek"
  | halfDayOfDay => "halfdayOfDay"
  | hourOfHalfDay => "hourOfHalfday"
  | clockHourOfHalfDay => "clockhourOfHalfday"
  | hourOfDay => "hourOfDay"
  | clockHourOfDay => "clockhourOfDay"
  | minuteOfHour => "minuteOfHour"
  | secondOfMinute => "secondOfMinute"
  | millisOfSecond => "millisOfSecond"
  | millisOfDay => "millisOfDay"
  | nanoOfSecond => "nanoOfSecond"

/-- The least and the greatest value a parsed field may take. Years are bounded only by the dates
they belong to, so they have no range of their own. -/
def parseRange? : DateTimeField → Option (Int × Int)
  | era | halfDayOfDay => some (0, 1)
  | centuryOfEra => some (0, 9999)
  | yearOfEra => some (1, 999999)
  | year | weekYear => none
  | weekOfWeekYear => some (1, 53)
  | monthOfYear => some (1, 12)
  | dayOfYear => some (1, 366)
  | dayOfMonth => some (1, 31)
  | dayOfWeek => some (1, 7)
  | hourOfHalfDay => some (0, 11)
  | clockHourOfHalfDay => some (1, 12)
  | hourOfDay => some (0, 23)
  | clockHourOfDay => some (1, 24)
  | minuteOfHour | secondOfMinute => some (0, 59)
  | millisOfSecond => some (0, 999)
  | millisOfDay => some (0, 86399999)
  | nanoOfSecond => some (0, 999999999)

/-- Whether a value of the field lies in the range of the field, if it has one. -/
def admits (field : DateTimeField) (value : Int) : Bool :=
  match field.parseRange? with
  | some (least, greatest) => least ≤ value && value ≤ greatest
  | none => true

def isSigned (field : DateTimeField) : Bool :=
  field = year || field = weekYear

theorem mem_all (field : DateTimeField) : field ∈ all := by
  cases field <;> decide

end DateTimeField

end ChronoText
