import ChronoText.Gregorian.Week
import ChronoText.Parsing.Bucket
import ChronoText.Temporal.LocalDateTime

/-! Resolution: the date-time or the period that the components in a bucket make. Components that
were not read have a default. Of components that say the same in two ways one is taken, in a fixed
order of precedence. Values are kept in words of fixed width, as wide as their component needs, so
a component out of its range keeps only its low bits. -/

set_option autoImplicit false

namespace ChronoText.Bucket

def outOfRange (value : Int) (field : DateTimeField) : Failure :=
  { kind := .valueOutOfRange, params := [.integer value, .text field.name] }

/-- The low bits of a value. -/
def narrowed (bits : Nat) (value : Int) : Nat :=
  (BitVec.ofInt bits value).toNat

/-- The value that the low bits make as a signed word. -/
def wrapped (bits : Nat) (value : Int) : Int :=
  (BitVec.ofInt bits value).toInt

def checkedYear (field : DateTimeField) (year : Int) : Except Failure Int :=
  if Gregorian.minYear ≤ year ∧ year ≤ Gregorian.maxYear then pure year
  else throw (outOfRange year field)

/-- The year before it is checked: the year itself, else the year of the era, else the century,
else 1970. Without an era the common era is meant. -/
def yearNumber (bucket : Bucket) : Int :=
  let inEra (yearOfEra : Int) : Int :=
    if bucket.fields .era = some 0 then 1 - yearOfEra else yearOfEra
  match bucket.fields .year, bucket.fields .yearOfEra, bucket.fields .centuryOfEra with
  | some year, _, _ => year
  | none, some yearOfEra, _ => wrapped 64 (inEra yearOfEra)
  | none, none, some century => wrapped 64 (inEra (century * 100))
  | none, none, none => 1970

def year (bucket : Bucket) : Except Failure Int :=
  checkedYear .year bucket.yearNumber

/-- Whether a month or a day of the month was read. -/
def hasMonthOrDay (bucket : Bucket) : Bool :=
  (bucket.fields .monthOfYear).isSome || (bucket.fields .dayOfMonth).isSome

/-- The day of a week date. Without a year of the week the plain year is taken, and without a week
or a day of the week the first. -/
def dayOfWeekDate (bucket : Bucket) : Except Failure Int := do
  let weekYear ← match bucket.fields .weekYear with
    | some weekYear => checkedYear .weekYear weekYear
    | none => bucket.year
  let week := (bucket.fields .weekOfWeekYear).getD 1
  if Gregorian.weeksInYear weekYear < week then
    throw (outOfRange week .weekOfWeekYear)
  let dayOfWeek := (bucket.fields .dayOfWeek).getD 1
  pure (wrapped 32 (Gregorian.weekYearStart weekYear + (week - 1) * 7 + dayOfWeek - 1))

def dayOfOrdinalDate (bucket : Bucket) (dayOfYear : Int) : Except Failure Int := do
  let year ← bucket.year
  if Gregorian.daysInYear year < dayOfYear then
    throw (outOfRange dayOfYear .dayOfYear)
  pure (wrapped 32 (Gregorian.epochDay year 1 1 + dayOfYear - 1))

/-- The day of a month and a day of the month, of which a missing one is the first. -/
def dayOfCalendarDate (bucket : Bucket) : Except Failure Int := do
  let year ← bucket.year
  let month := narrowed 8 ((bucket.fields .monthOfYear).getD 1)
  let day := (bucket.fields .dayOfMonth).getD 1
  if Gregorian.daysInMonth year month < day then
    throw (outOfRange day .dayOfMonth)
  pure (Gregorian.epochDay year month (narrowed 8 day))

/-- The days since 1970-01-01. A month or a day of the month goes before a week, and a week before
a day of the year. -/
def epochDay (bucket : Bucket) : Except Failure Int :=
  let hasWeek := (bucket.fields .weekYear).isSome || (bucket.fields .weekOfWeekYear).isSome
  if bucket.hasMonthOrDay then bucket.dayOfCalendarDate
  else if hasWeek then bucket.dayOfWeekDate
  else
    match bucket.fields .dayOfYear with
    | some dayOfYear => bucket.dayOfOrdinalDate dayOfYear
    | none => bucket.dayOfCalendarDate

/-- The components that say what a clock shows, the fraction of the second and the half day
apart. -/
def clockFields : List DateTimeField :=
  [.hourOfDay, .clockHourOfDay, .hourOfHalfDay, .clockHourOfHalfDay, .minuteOfHour,
    .secondOfMinute]

/-- The time of day that a number of milliseconds after midnight makes. -/
def timeOfMillis (millisOfDay : Int) : TimeOfDay :=
  let seconds := millisOfDay.tdiv 1000
  { hour := narrowed 8 (seconds.tdiv 3600)
    minute := narrowed 8 ((seconds.tdiv 60).tmod 60)
    second := narrowed 8 (seconds.tmod 60)
    nanosecond := narrowed 32 (millisOfDay.tmod 1000 * 1000000) }

/-- The hour of the day: the hour itself, else the clock hour, else an hour of the half day, which
without a half day is in the morning. -/
def hour (bucket : Bucket) : Int :=
  match bucket.fields .hourOfDay, bucket.fields .clockHourOfDay with
  | some hour, _ => hour
  | none, some clockHour => clockHour.tmod 24
  | none, none =>
    let halfDay := (bucket.fields .halfDayOfDay).getD 0
    let hourOfHalfDay : Int :=
      match bucket.fields .hourOfHalfDay, bucket.fields .clockHourOfHalfDay with
      | some hour, _ => hour
      | none, some clockHour => clockHour.tmod 12
      | none, none => 0
    halfDay * 12 + hourOfHalfDay

def nanosecond (bucket : Bucket) : Int :=
  match bucket.fields .nanoOfSecond, bucket.fields .millisOfSecond with
  | some nanosecond, _ => nanosecond
  | none, some millis => millis * 1000000
  | none, none => 0

/-- The time of day. The milliseconds of the day count only where no clock field was read. -/
def timeOfDay (bucket : Bucket) : TimeOfDay :=
  let fromClock : TimeOfDay :=
    { hour := narrowed 8 bucket.hour
      minute := narrowed 8 ((bucket.fields .minuteOfHour).getD 0)
      second := narrowed 8 ((bucket.fields .secondOfMinute).getD 0)
      nanosecond := narrowed 32 bucket.nanosecond }
  if clockFields.any fun field => (bucket.fields field).isSome then fromClock
  else
    match bucket.fields .millisOfDay with
    | some millisOfDay => timeOfMillis millisOfDay
    | none => fromClock

/-- The day of the week of a count of days. The weeks are counted from the Monday three days before
1970-01-01, in 32 bits like the days. -/
def dayOfWeekOf (day : Int) : Int :=
  Gregorian.dayOfWeek (wrapped 32 (day + 3) - 3)

/-- The date-time that the components make. A day of the week that was read has to be that of the
date. -/
def toLocal (bucket : Bucket) : Except Failure LocalDateTime := do
  let day ← bucket.epochDay
  match bucket.fields .dayOfWeek with
  | some dayOfWeek =>
    if dayOfWeekOf day ≠ dayOfWeek then throw (outOfRange dayOfWeek .dayOfWeek)
  | none => pure ()
  match LocalDateTime.ofParts (Gregorian.dateOfEpochDay day) bucket.timeOfDay with
  | .ok value => pure value
  | .error _ => throw { kind := .noSuchValue, params := [.text "LocalDateTime"] }

/-- The period with a unit as it was read; a unit that was not read stays as it is. -/
def putUnit (bucket : Bucket) (period : Period) (field : PeriodField) : Except Failure Period :=
  match bucket.periodFields field with
  | none => pure period
  | some value =>
    match period.withField field value with
    | .ok changed => pure changed
    | .error _ => throw (unsupportedField field period.type)

def toPeriod (bucket : Bucket) (type : PeriodType) : Except Failure Period :=
  PeriodField.all.foldlM bucket.putUnit (.zeroOf type)

end ChronoText.Bucket
