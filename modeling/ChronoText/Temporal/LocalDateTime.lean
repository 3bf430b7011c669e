import ChronoText.Failure.Error
import ChronoText.Gregorian.Date
import ChronoText.Text.Digits
import ChronoText.Text.Length

/-! Date-times without an offset: a date of the Gregorian calendar and a time of day. They are
checked when they are made from parts, and print in the extended ISO form. -/

set_option autoImplicit false

namespace ChronoText

structure TimeOfDay where
  hour : Nat
  minute : Nat
  second : Nat
  nanosecond : Nat
  deriving DecidableEq

namespace TimeOfDay

def midnight : TimeOfDay := ⟨0, 0, 0, 0⟩

structure IsValid (time : TimeOfDay) : Prop where
  hour_le : time.hour ≤ 23
  minute_le : time.minute ≤ 59
  second_le : time.second ≤ 59
  nanosecond_le : time.nanosecond ≤ 999999999

def nanosecondOfDay (time : TimeOfDay) : Nat :=
  (time.hour * 3600 + time.minute * 60 + time.second) * 1000000000 + time.nanosecond

/-- The time that lies a number of nanoseconds after midnight. -/
def ofNanosecondOfDay (nanoseconds : Nat) : TimeOfDay :=
  let seconds := nanoseconds / 1000000000
  { hour := seconds / 3600
    minute := seconds / 60 % 60
    second := seconds % 60
    nanosecond := nanoseconds % 1000000000 }

end TimeOfDay

structure LocalDateTime where
  date : Gregorian.Date
  time : TimeOfDay
  deriving DecidableEq

namespace LocalDateTime

structure IsValid (value : LocalDateTime) : Prop where
  date : value.date.IsValid
  time : value.time.IsValid

def unixEpoch : LocalDateTime := ⟨⟨1970, 1, 1⟩, .midnight⟩

instance : Inhabited LocalDateTime := ⟨unixEpoch⟩

/-- A date of the calendar at midnight. The year is checked first, then the month and the day. -/
def ofDate (date : Gregorian.Date) : Except FormatError LocalDateTime :=
  if date.year < Gregorian.minYear ∨ Gregorian.maxYear < date.year then
    throw Misuse.yearOutOfRange.error
  else if date.month < 1 ∨ 12 < date.month then
    throw Misuse.monthOutOfRange.error
  else if date.day = 0 ∨ Gregorian.daysInMonth date.year date.month < date.day then
    throw Misuse.dayNotInMonth.error
  else
    pure ⟨date, .midnight⟩

def withTime (value : LocalDateTime) (time : TimeOfDay) : Except FormatError LocalDateTime :=
  if 23 < time.hour ∨ 59 < time.minute ∨ 59 < time.second ∨ 999999999 < time.nanosecond then
    throw Misuse.timeOutOfRange.error
  else
    pure { value with time }

def ofParts (date : Gregorian.Date) (time : TimeOfDay) : Except FormatError LocalDateTime := do
  (← ofDate date).withTime time

def epochDay (value : LocalDateTime) : Int :=
  value.date.epochDay

def nanosecondsPerDay : Nat := 86400000000000

/-- The nanoseconds since 1970-01-01 that a clock without offset counts. -/
def epochNanoseconds (value : LocalDateTime) : Int :=
  value.epochDay * nanosecondsPerDay + value.time.nanosecondOfDay

/-- The date-time at which a clock without offset has counted a number of nanoseconds. -/
def ofEpochNanoseconds (nanoseconds : Int) : LocalDateTime where
  date := Gregorian.dateOfEpochDay (nanoseconds / nanosecondsPerDay)
  time := .ofNanosecondOfDay (nanoseconds % nanosecondsPerDay).toNat

def parts (value : LocalDateTime) : List Int :=
  [value.date.year, value.date.month, value.date.day, value.time.hour, value.time.minute,
    value.time.second, value.time.nanosecond]

/-- Date-times are ordered by their parts, the year first. -/
def order (first second : LocalDateTime) : Ordering :=
  (first.parts.zip second.parts).foldr (fun part rest => (compare part.1 part.2).then rest) .eq

/-- Years from 0 to 9999 have four digits; all others have a sign and six. -/
def yearText (year : Int) : List Char :=
  if 0 ≤ year ∧ year ≤ 9999 then Text.padded '0' 4 year.toNat
  else (if year < 0 then '-' else '+') :: Text.padded '0' 6 year.natAbs

/-- A fraction of a second with the trailing zeros dropped; nothing for zero. -/
def fractionText (nanosecond : Nat) : List Char :=
  if nanosecond = 0 then []
  else '.' :: ((Text.padded '0' 9 nanosecond).reverse.dropWhile (· == '0')).reverse

/-- The form `YYYY-MM-DDThh:mm:ss`, with the fraction of the second where there is one. -/
def text (value : LocalDateTime) : List Char :=
  yearText value.date.year ++ '-' :: Text.padded '0' 2 value.date.month
    ++ '-' :: Text.padded '0' 2 value.date.day
    ++ 'T' :: Text.padded '0' 2 value.time.hour
    ++ ':' :: Text.padded '0' 2 value.time.minute
    ++ ':' :: Text.padded '0' 2 value.time.second
    ++ fractionText value.time.nanosecond

def lengthHint (value : LocalDateTime) : LengthHint :=
  let toTheSecond := (if 0 ≤ value.date.year ∧ value.date.year ≤ 9999 then 4 else 7) + 15
  if value.time.nanosecond = 0 then .exact toTheSecond
  else .between (toTheSecond + 2) (toTheSecond + 10)

end LocalDateTime

end ChronoText
