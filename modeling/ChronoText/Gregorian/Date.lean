/-! The proleptic Gregorian calendar: lengths of years and months, and the days since
1970-01-01. The conversions between dates and days count in years that start on the first of
March, from an origin so far back that no supported date comes before it. -/

set_option autoImplicit false

namespace ChronoText.Gregorian

def minYear : Int := -271821

def maxYear : Int := 275760

def isLeapYear (year : Int) : Bool :=
  year % 4 == 0 && (year % 100 != 0 || year % 400 == 0)

def daysInYear (year : Int) : Nat :=
  if isLeapYear year then 366 else 365

def daysInMonth (year : Int) (month : Nat) : Nat :=
  match month with
  | 1 | 3 | 5 | 7 | 8 | 10 | 12 => 31
  | 4 | 6 | 9 | 11 => 30
  | _ => if isLeapYear year then 29 else 28

structure Date where
  year : Int
  month : Nat
  day : Nat
  deriving DecidableEq

namespace Date

/-- A date of the calendar within the supported years. -/
structure IsValid (date : Date) : Prop where
  year_ge : minYear ≤ date.year
  year_le : date.year ≤ maxYear
  month_ge : 1 ≤ date.month
  month_le : date.month ≤ 12
  day_ge : 1 ≤ date.day
  day_le : date.day ≤ daysInMonth date.year date.month

end Date

/-- The years by which the count starts before the year zero: 680 cycles of 400 years. -/
def yearShift : Int := 272000

/-- The days from the first of March of the year `-yearShift` to 1970-01-01. -/
def dayShift : Int := 719468 + 146097 * 680

/-- The days from 1970-01-01 to a date, for a year from one before `minYear` on. -/
def epochDay (year : Int) (month day : Nat) : Int :=
  let late : Int := if month ≤ 2 then 1 else 0
  let marchYear := year + yearShift - late
  let marchMonth : Int := month + 12 * late
  let century := marchYear / 100
  let daysBeforeYear := 1461 * marchYear / 4 - century + century / 4
  let daysBeforeMonth := (979 * marchMonth - 2919) / 32
  daysBeforeYear + daysBeforeMonth + (day - 1) - dayShift

/-- The date that lies a number of days after 1970-01-01. The count of days, and of quarters of
days, is taken in 32 bits, which holds all days of supported years. -/
def dateOfEpochDay (days : Int) : Date :=
  let marchDays := ((days + dayShift) % 0x100000000).toNat
  let quarters := (4 * marchDays + 3) % 0x100000000
  let century := quarters / 146097
  let quartersOfCentury := (quarters % 146097) ||| 3
  let yearOfCentury := 376287347 * quartersOfCentury / 0x8000000000
  let dayOfYear := (quartersOfCentury - 1461 * yearOfCentury) / 4
  let monthAndDay := 2141 * dayOfYear + 197913
  let late := if 306 ≤ dayOfYear then 1 else 0
  { year := (100 * century + yearOfCentury + late : Nat) - yearShift
    month := monthAndDay / 0x10000 - 12 * late
    day := monthAndDay % 0x10000 / 2141 + 1 }

namespace Date

def epochDay (date : Date) : Int :=
  Gregorian.epochDay date.year date.month date.day

end Date

end ChronoText.Gregorian
