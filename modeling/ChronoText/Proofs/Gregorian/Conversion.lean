import ChronoText.Gregorian.Week
import Mathlib

/-! Dates and counts of days are inverse to each other. A count of days is taken apart into
centuries, years of the century and days of the year, all of them starting in March, so that a leap
day is the last day of its year. That every count of days in the supported years is that of a date
follows by counting on from date to date. -/

set_option autoImplicit false

namespace ChronoText.Gregorian

/-! ## Taking a count of days apart -/

theorem or_three (n : Nat) : n ||| 3 = 4 * (n / 4) + 3 := by
  have low : (n ||| 3) % 2 ^ 2 = 3 := by
    rw [Nat.or_mod_two_pow]
    have small : n % 2 ^ 2 < 4 := by omega
    interval_cases n % 2 ^ 2 <;> rfl
  have high : (n ||| 3) / 2 ^ 2 = n / 4 := by
    rw [Nat.or_div_two_pow]
    exact Nat.or_zero _
  omega

/-- The multiplication that stands for a division by the quarters of days of a year. -/
theorem yearOfCentury_eq {quarters : Nat} (small : quarters < 146100) :
    376287347 * quarters / 0x8000000000 = quarters / 1461 := by
  omega

/-- The last day of a year that starts in March exists only in front of a leap year's March. -/
def InMarchYear (century year day : Nat) : Prop :=
  year < 100 ∧ day ≤ 365 ∧ (day = 365 → year % 4 = 3 ∧ (year = 99 → century % 4 = 3))

/-- The days before a day of a year of a century, all starting in March. -/
def marchDays (century year day : Nat) : Nat :=
  36524 * century + century / 4 + 1461 * year / 4 + day

private theorem century_eq {century year day : Nat} (real : InMarchYear century year day) :
    (4 * marchDays century year day + 3) / 146097 = century := by
  obtain ⟨yearLt, dayLe, leap⟩ := real
  unfold marchDays
  omega

private theorem quarters_eq {century year day : Nat} (real : InMarchYear century year day) :
    (4 * marchDays century year day + 3) % 146097 ||| 3 = 4 * (1461 * year / 4 + day) + 3 := by
  have split := century_eq real
  rw [or_three]
  unfold marchDays at split ⊢
  omega

private theorem yearAndDay_eq {century year day : Nat} (real : InMarchYear century year day) :
    (4 * (1461 * year / 4 + day) + 3) / 1461 = year ∧
      (4 * (1461 * year / 4 + day) + 3 - 1461 * year) / 4 = day := by
  obtain ⟨yearLt, dayLe, leap⟩ := real
  omega

def daysBeforeMonth (marchMonth : Nat) : Nat :=
  (979 * marchMonth - 2919) / 32

private theorem monthAndDay_eq {marchMonth day : Nat} (monthGe : 3 ≤ marchMonth)
    (monthLe : marchMonth ≤ 14) (dayGe : 1 ≤ day)
    (dayLe : daysBeforeMonth marchMonth + day ≤ min (daysBeforeMonth (marchMonth + 1)) 366) :
    (2141 * (daysBeforeMonth marchMonth + day - 1) + 197913) / 0x10000 = marchMonth ∧
      (2141 * (daysBeforeMonth marchMonth + day - 1) + 197913) % 0x10000 / 2141 + 1 = day := by
  unfold daysBeforeMonth at *
  interval_cases marchMonth <;> simp only [Nat.reduceMul, Nat.reduceSub, Nat.reduceDiv,
    Nat.reduceAdd, Nat.min_def, Nat.reduceLeDiff, if_true, if_false] at dayLe ⊢ <;> omega

/-- A count of days from March on is taken apart into the year, the month and the day. -/
theorem dateOfEpochDay_marchDays {century year marchMonth day : Nat} (monthGe : 3 ≤ marchMonth)
    (monthLe : marchMonth ≤ 14) (dayGe : 1 ≤ day)
    (dayLe : daysBeforeMonth marchMonth + day ≤ min (daysBeforeMonth (marchMonth + 1)) 366)
    (real : InMarchYear century year (daysBeforeMonth marchMonth + day - 1))
    (supported : century ≤ 10000) :
    dateOfEpochDay (marchDays century year (daysBeforeMonth marchMonth + day - 1) - dayShift) =
      { year := (100 * century + year + if 13 ≤ marchMonth then 1 else 0 : Nat) - yearShift
        month := marchMonth - if 13 ≤ marchMonth then 12 else 0
        day } := by
  obtain ⟨monthEq, dayEq⟩ := monthAndDay_eq monthGe monthLe dayGe dayLe
  obtain ⟨yearEq, dayOfYearEq⟩ := yearAndDay_eq real
  have centuryEq := century_eq real
  have quartersEq := quarters_eq real
  have late : 306 ≤ daysBeforeMonth marchMonth + day - 1 ↔ 13 ≤ marchMonth := by
    unfold daysBeforeMonth at *
    interval_cases marchMonth <;> omega
  generalize daysBeforeMonth marchMonth + day - 1 = dayOfYear at *
  have bound : marchDays century year dayOfYear < 2 ^ 30 := by
    obtain ⟨yearLt, dayLt, _⟩ := real
    unfold marchDays
    omega
  have days : (((marchDays century year dayOfYear : Int) - dayShift + dayShift) % 0x100000000).toNat =
      marchDays century year dayOfYear := by
    omega
  have quarters : (4 * marchDays century year dayOfYear + 3) % 0x100000000 =
      4 * marchDays century year dayOfYear + 3 := by
    omega
  have yearOfCentury : 376287347 * (4 * (1461 * year / 4 + dayOfYear) + 3) / 0x8000000000 = year := by
    rw [yearOfCentury_eq, yearEq]
    obtain ⟨yearLt, dayLt, _⟩ := real
    omega
  unfold dateOfEpochDay
  simp only [days, quarters, centuryEq, quartersEq, yearOfCentury, dayOfYearEq, monthEq, dayEq,
    late]
  congr 1
  split <;> omega

/-! ## Dates to days and back -/

theorem isLeapYear_iff (year : Int) :
    isLeapYear year = true ↔ year % 4 = 0 ∧ (year % 100 ≠ 0 ∨ year % 400 = 0) := by
  simp only [isLeapYear, Bool.and_eq_true, Bool.or_eq_true, beq_iff_eq, bne_iff_ne, ne_eq]

/-- Apart from February, a month has as many days as there are from it to the next month, counted
from March on. -/
theorem daysInMonth_le (year : Int) {month : Nat} (monthGe : 1 ≤ month) (monthLe : month ≤ 12)
    (notFebruary : month ≠ 2) :
    daysBeforeMonth ((month + if month ≤ 2 then 12 else 0)) + daysInMonth year month =
      daysBeforeMonth ((month + if month ≤ 2 then 12 else 0) + 1) := by
  interval_cases month <;> first | rfl | exact absurd rfl notFebruary

theorem daysInMonth_february (year : Int) :
    daysInMonth year 2 = if isLeapYear year then 29 else 28 := rfl

theorem daysInMonth_le_thirtyOne (year : Int) (month : Nat) : daysInMonth year month ≤ 31 := by
  unfold daysInMonth
  split <;> first | omega | (split <;> omega)

private theorem daysBeforeYear_eq (year : Nat) :
    (1461 * (year : Int) / 4 - (year : Int) / 100 + (year : Int) / 100 / 4) =
      (36524 * (year / 100) + year / 100 / 4 + 1461 * (year % 100) / 4 : Nat) := by
  have quarters : 1461 * year / 4 = 36525 * (year / 100) + 1461 * (year % 100) / 4 := by
    obtain ⟨century, rest, split⟩ : ∃ century rest, year = 100 * century + rest ∧ rest < 100 :=
      ⟨year / 100, year % 100, by omega, by omega⟩
    have centuryEq : year / 100 = century := by omega
    have restEq : year % 100 = rest := by omega
    rw [centuryEq, restEq]
    omega
  have quartersInt : 1461 * (year : Int) / 4 =
      36525 * ((year : Int) / 100) + 1461 * ((year : Int) % 100) / 4 := by
    exact_mod_cast quarters
  push_cast
  linarith

namespace Date

/-- The number of the month in a year from March on, January and February being the last. -/
def marchMonth (date : Date) : Nat :=
  date.month + if date.month ≤ 2 then 12 else 0

def marchYear (date : Date) : Nat :=
  (date.year + yearShift - if date.month ≤ 2 then 1 else 0).toNat

namespace IsValid

variable {date : Date}

theorem marchMonth_bounds (valid : date.IsValid) : 3 ≤ date.marchMonth ∧ date.marchMonth ≤ 14 := by
  have monthGe := valid.month_ge
  have monthLe := valid.month_le
  unfold marchMonth
  split <;> omega

theorem marchYear_eq (valid : date.IsValid) :
    (date.marchYear : Int) = date.year + yearShift - if date.month ≤ 2 then 1 else 0 := by
  have yearGe := valid.year_ge
  unfold minYear at yearGe
  unfold marchYear yearShift
  split <;> omega

theorem day_le_month (valid : date.IsValid) :
    daysBeforeMonth date.marchMonth + date.day ≤ daysBeforeMonth (date.marchMonth + 1) ∧
      daysBeforeMonth date.marchMonth + date.day ≤ 366 := by
  have dayLe := valid.day_le
  by_cases february : date.month = 2
  · have month : date.marchMonth = 14 := by
      unfold marchMonth
      rw [february, if_pos (Nat.le_refl 2)]
    rw [february, daysInMonth_february] at dayLe
    have last : date.day ≤ 29 := by
      split at dayLe <;> omega
    unfold daysBeforeMonth
    rw [month]
    omega
  · have monthGe := valid.month_ge
    have monthLe := valid.month_le
    have next := daysInMonth_le date.year monthGe monthLe february
    have notLast : date.marchMonth ≤ 13 := by
      unfold marchMonth
      split <;> omega
    have yearEnd : daysBeforeMonth (date.marchMonth + 1) ≤ 366 := by
      unfold daysBeforeMonth
      omega
    unfold marchMonth at *
    omega

/-- Only a leap day is the last of 366 days from March on. -/
theorem inMarchYear (valid : date.IsValid) :
    InMarchYear (date.marchYear / 100) (date.marchYear % 100)
      (daysBeforeMonth date.marchMonth + date.day - 1) := by
  obtain ⟨monthEnd, yearEnd⟩ := valid.day_le_month
  refine ⟨by omega, by omega, fun last => ?_⟩
  have monthLe := valid.month_le
  have february : date.month = 2 := by
    have late : date.marchMonth = 14 := by
      have monthLe := valid.marchMonth_bounds.2
      unfold daysBeforeMonth at last monthEnd
      omega
    unfold marchMonth at late
    split at late <;> omega
  have yearEq := valid.marchYear_eq
  rw [february, if_pos (Nat.le_refl 2)] at yearEq
  have month : date.marchMonth = 14 := by
    unfold marchMonth
    rw [february, if_pos (Nat.le_refl 2)]
  have dayLe := valid.day_le
  rw [february, daysInMonth_february] at dayLe
  unfold daysBeforeMonth at last
  rw [month] at last
  cases isLeap : isLeapYear date.year with
  | true =>
      obtain ⟨fourth, century⟩ := (isLeapYear_iff date.year).mp isLeap
      unfold yearShift at yearEq
      omega
  | false =>
      rw [isLeap, if_neg Bool.false_ne_true] at dayLe
      omega

/-- The days from 1970-01-01 to a date are the days of the centuries, years and months before it,
taken from March on. -/
theorem epochDay_eq (valid : date.IsValid) :
    date.epochDay =
      marchDays (date.marchYear / 100) (date.marchYear % 100)
        (daysBeforeMonth date.marchMonth + date.day - 1) - dayShift := by
  have yearEq := valid.marchYear_eq
  have dayGe := valid.day_ge
  have month : ((979 * ((date.month : Int) + 12 * if date.month ≤ 2 then 1 else 0) - 2919) / 32) =
      daysBeforeMonth date.marchMonth := by
    have monthGe := valid.marchMonth_bounds.1
    unfold daysBeforeMonth marchMonth at *
    split <;> omega
  have days := daysBeforeYear_eq date.marchYear
  unfold Date.epochDay Gregorian.epochDay marchDays
  simp only [month, ← yearEq, days]
  omega

/-- Counted from the origin of the conversions, the days of supported dates are no more than 28 bits
hold. -/
theorem dayCount_bounds (valid : date.IsValid) :
    0 ≤ date.epochDay + dayShift ∧ date.epochDay + dayShift < 2 ^ 28 := by
  have days := valid.epochDay_eq
  have yearEq := valid.marchYear_eq
  have yearLe := valid.year_le
  have dayLe := valid.day_le_month.2
  have yearLt : date.marchYear < 600000 := by
    unfold maxYear at yearLe
    unfold yearShift at yearEq
    split at yearEq <;> omega
  refine ⟨by omega, ?_⟩
  unfold marchDays at days
  omega

end IsValid

end Date

theorem dateOfEpochDay_epochDay {date : Date} (valid : date.IsValid) :
    dateOfEpochDay date.epochDay = date := by
  obtain ⟨monthGe, monthLe⟩ := valid.marchMonth_bounds
  have yearEq := valid.marchYear_eq
  have century : date.marchYear / 100 ≤ 10000 := by
    have yearLe := valid.year_le
    unfold maxYear at yearLe
    unfold yearShift at yearEq
    split at yearEq <;> omega
  have late : 13 ≤ date.marchMonth ↔ date.month ≤ 2 := by
    have monthLe := valid.month_le
    have monthGe := valid.month_ge
    unfold Date.marchMonth
    split <;> omega
  have month : date.marchMonth - (if 13 ≤ date.marchMonth then 12 else 0) = date.month := by
    simp only [late]
    unfold Date.marchMonth
    split <;> omega
  have year : ((100 * (date.marchYear / 100) + date.marchYear % 100
      + if 13 ≤ date.marchMonth then 1 else 0 : Nat) : Int) - yearShift = date.year := by
    simp only [late]
    split at yearEq <;> simp only [*, if_true, if_false] <;> omega
  rw [valid.epochDay_eq, dateOfEpochDay_marchDays monthGe monthLe valid.day_ge
    (Nat.le_min.mpr valid.day_le_month) valid.inMarchYear century, month, year]

end ChronoText.Gregorian
