import ChronoText.Proofs.Gregorian.Succession

/-! The conversions in machine words. Each step of a conversion is taken in a word of a fixed width
and has no result where the word cannot hold it, and a quotient is rounded towards zero. For the
supported dates and days every step has a result, and the last one is that of the conversion. -/

set_option autoImplicit false

namespace ChronoText.Gregorian

/-- The integers that a machine counts with in a number of bits. -/
structure Word where
  least : Int
  greatest : Int

namespace Word

def signed32 : Word := ⟨-0x80000000, 0x7fffffff⟩

def signed64 : Word := ⟨-0x8000000000000000, 0x7fffffffffffffff⟩

def unsigned8 : Word := ⟨0, 0xff⟩

def unsigned32 : Word := ⟨0, 0xffffffff⟩

def unsigned64 : Word := ⟨0, 0xffffffffffffffff⟩

/-- The result of a step, unless the word cannot hold it. -/
def hold? (word : Word) (result : Int) : Option Int :=
  if word.least ≤ result ∧ result ≤ word.greatest then some result else none

variable {result : Int}

theorem hold?_signed32 (low : -0x80000000 ≤ result) (high : result ≤ 0x7fffffff) :
    signed32.hold? result = some result :=
  if_pos ⟨low, high⟩

theorem hold?_signed64 (low : -0x8000000000000000 ≤ result) (high : result ≤ 0x7fffffffffffffff) :
    signed64.hold? result = some result :=
  if_pos ⟨low, high⟩

theorem hold?_unsigned8 (low : 0 ≤ result) (high : result ≤ 0xff) :
    unsigned8.hold? result = some result :=
  if_pos ⟨low, high⟩

theorem hold?_unsigned32 (low : 0 ≤ result) (high : result ≤ 0xffffffff) :
    unsigned32.hold? result = some result :=
  if_pos ⟨low, high⟩

section Step

variable {α : Type} {later : Int → Option α} {final : α}

theorem step_signed32 (low : -0x80000000 ≤ result) (high : result ≤ 0x7fffffff)
    (next : later result = some final) : (signed32.hold? result >>= later) = some final := by
  rw [hold?_signed32 low high]
  exact next

theorem step_unsigned8 (low : 0 ≤ result) (high : result ≤ 0xff)
    (next : later result = some final) : (unsigned8.hold? result >>= later) = some final := by
  rw [hold?_unsigned8 low high]
  exact next

theorem step_unsigned32 (low : 0 ≤ result) (high : result ≤ 0xffffffff)
    (next : later result = some final) : (unsigned32.hold? result >>= later) = some final := by
  rw [hold?_unsigned32 low high]
  exact next

theorem step_unsigned64 (low : 0 ≤ result) (high : result ≤ 0xffffffffffffffff)
    (next : later result = some final) : (unsigned64.hold? result >>= later) = some final := by
  rw [hold?, if_pos ⟨low, high⟩]
  exact next

end Step

end Word

open Word (signed32 unsigned8 unsigned32 unsigned64 step_signed32 step_unsigned8 step_unsigned32
  step_unsigned64)

/-! ## From dates to days -/

/-- The days before a year from March on, from the number of the year. -/
def daysBeforeYearInWords (marchYear : Int) : Option Int := do
  let century ← signed32.hold? (marchYear.tdiv 100)
  let quarters ← signed32.hold? (1461 * marchYear)
  let fourths ← signed32.hold? (quarters.tdiv 4)
  let julian ← signed32.hold? (fourths - century)
  let cycle ← signed32.hold? (century.tdiv 4)
  signed32.hold? (julian + cycle)

/-- The days before a month of a year from March on, from the number of the month. -/
def daysBeforeMonthInWords (marchMonth : Int) : Option Int := do
  let scaled ← signed32.hold? (979 * marchMonth)
  let shifted ← signed32.hold? (scaled - 2919)
  signed32.hold? (shifted.tdiv 32)

def epochDayInWords (year : Int) (month day : Nat) : Option Int := do
  let late : Int := if month ≤ 2 then 1 else 0
  let shifted ← signed32.hold? (year + yearShift)
  let marchYear ← signed32.hold? (shifted - late)
  let lateMonths ← signed32.hold? (12 * late)
  let marchMonth ← signed32.hold? (month + lateMonths)
  let dayOfMonth ← signed32.hold? (day - 1)
  let years ← daysBeforeYearInWords marchYear
  let months ← daysBeforeMonthInWords marchMonth
  let whole ← signed32.hold? (years + months)
  let days ← signed32.hold? (whole + dayOfMonth)
  signed32.hold? (days - dayShift)

theorem daysBeforeYearInWords_eq {marchYear : Int} (low : 0 ≤ marchYear)
    (high : marchYear ≤ 600000) :
    daysBeforeYearInWords marchYear = some (daysBeforeMarchYear marchYear) := by
  have century : marchYear.tdiv 100 = marchYear / 100 := Int.tdiv_eq_ediv_of_nonneg low
  have cycle : (marchYear / 100).tdiv 4 = marchYear / 100 / 4 :=
    Int.tdiv_eq_ediv_of_nonneg (by omega)
  have fourths : (1461 * marchYear).tdiv 4 = 1461 * marchYear / 4 :=
    Int.tdiv_eq_ediv_of_nonneg (by omega)
  unfold daysBeforeYearInWords
  rw [century]
  refine step_signed32 (by omega) (by omega) ?_
  refine step_signed32 (by omega) (by omega) ?_
  rw [fourths]
  refine step_signed32 (by omega) (by omega) ?_
  refine step_signed32 (by omega) (by omega) ?_
  rw [cycle]
  refine step_signed32 (by omega) (by omega) ?_
  exact Word.hold?_signed32 (by omega) (by omega)

theorem daysBeforeMonthInWords_eq {marchMonth : Nat} (low : 3 ≤ marchMonth)
    (high : marchMonth ≤ 14) :
    daysBeforeMonthInWords marchMonth = some (daysBeforeMonth marchMonth : Int) := by
  have days : (979 * (marchMonth : Int) - 2919).tdiv 32 = daysBeforeMonth marchMonth := by
    rw [Int.tdiv_eq_ediv_of_nonneg (by omega)]
    unfold daysBeforeMonth
    omega
  have bound : daysBeforeMonth marchMonth ≤ 366 := by
    unfold daysBeforeMonth
    omega
  unfold daysBeforeMonthInWords
  refine step_signed32 (by omega) (by omega) ?_
  refine step_signed32 (by omega) (by omega) ?_
  rw [days]
  exact Word.hold?_signed32 (by omega) (by omega)

theorem daysBeforeMarchYear_bounds {marchYear : Int} (low : 0 ≤ marchYear)
    (high : marchYear ≤ 600000) :
    0 ≤ daysBeforeMarchYear marchYear ∧ daysBeforeMarchYear marchYear ≤ 220000000 := by
  unfold daysBeforeMarchYear
  omega

theorem Date.IsValid.epochDayInWords_eq {date : Date} (valid : date.IsValid) :
    epochDayInWords date.year date.month date.day = some date.epochDay := by
  have yearEq := valid.marchYear_eq
  obtain ⟨marchMonthGe, marchMonthLe⟩ := valid.marchMonth_bounds
  obtain ⟨yearGe, yearLe, monthGe, monthLe, dayGe, dayLe⟩ := valid
  have dayLast := daysInMonth_le_thirtyOne date.year date.month
  unfold minYear at yearGe
  unfold maxYear at yearLe
  have late : (if date.month ≤ 2 then 1 else 0 : Int) = 0 ∨
      (if date.month ≤ 2 then 1 else 0 : Int) = 1 := by
    split <;> simp
  have month : (date.month : Int) + 12 * (if date.month ≤ 2 then 1 else 0) = date.marchMonth := by
    unfold Date.marchMonth
    split <;> omega
  have months : (979 * (date.marchMonth : Int) - 2919) / 32 = daysBeforeMonth date.marchMonth := by
    unfold daysBeforeMonth
    omega
  have monthsLe : daysBeforeMonth date.marchMonth ≤ 366 := by
    unfold daysBeforeMonth
    omega
  have shape : date.epochDay = daysBeforeMarchYear date.marchYear
      + daysBeforeMonth date.marchMonth + (date.day - 1) - dayShift := by
    rw [Date.epochDay, epochDay_eq_add, ← yearEq, month, months]
  unfold epochDayInWords
  dsimp only
  generalize (if date.month ≤ 2 then 1 else 0 : Int) = january at *
  unfold yearShift at *
  obtain ⟨yearsGe, yearsLe⟩ := @daysBeforeMarchYear_bounds date.marchYear (by omega) (by omega)
  refine step_signed32 (by omega) (by omega) ?_
  refine step_signed32 (by omega) (by omega) ?_
  rw [← yearEq]
  refine step_signed32 (by omega) (by omega) ?_
  refine step_signed32 (by omega) (by omega) ?_
  refine step_signed32 (by omega) (by omega) ?_
  rw [month, daysBeforeYearInWords_eq (by omega) (by omega), Option.bind_eq_bind, Option.bind_some,
    daysBeforeMonthInWords_eq marchMonthGe marchMonthLe, Option.bind_some]
  unfold dayShift at *
  refine step_signed32 (by omega) (by omega) ?_
  refine step_signed32 (by omega) (by omega) ?_
  rw [shape]
  exact Word.hold?_signed32 (by omega) (by omega)

/-! ## From days to dates -/

/-- The year and the day of the year of a century, from the quarters of days in it. -/
def yearAndDayInWords (quarters : Int) : Option (Int × Int) := do
  let product ← unsigned64.hold? (376287347 * quarters)
  let year ← unsigned32.hold? (product / 0x8000000000)
  let before ← unsigned32.hold? (1461 * year)
  let rest ← unsigned32.hold? (quarters - before)
  let day ← unsigned32.hold? (rest / 4)
  pure (year, day)

/-- The month and the day of the month, from the day of the year from March on. -/
def monthAndDayInWords (dayOfYear late : Int) : Option (Int × Int) := do
  let scaled ← unsigned32.hold? (2141 * dayOfYear)
  let monthAndDay ← unsigned32.hold? (scaled + 197913)
  let lateMonths ← unsigned32.hold? (12 * late)
  let longMonth ← unsigned32.hold? (monthAndDay / 0x10000 - lateMonths)
  let month ← unsigned8.hold? longMonth
  let longDay ← unsigned32.hold? (monthAndDay % 0x10000 / 2141 + 1)
  let day ← unsigned8.hold? longDay
  pure (month, day)

def dateInWords (days : Int) : Option Date := do
  let shifted ← signed32.hold? (days + dayShift)
  let marchDays ← unsigned32.hold? shifted
  let fourfold ← unsigned32.hold? (4 * marchDays)
  let quarters ← unsigned32.hold? (fourfold + 3)
  let century ← unsigned32.hold? (quarters / 146097)
  let quartersOfCentury ← unsigned32.hold? ((quarters % 146097).toNat ||| 3 : Nat)
  let (yearOfCentury, dayOfYear) ← yearAndDayInWords quartersOfCentury
  let late : Int := if 306 ≤ dayOfYear then 1 else 0
  let (month, day) ← monthAndDayInWords dayOfYear late
  let centuries ← unsigned32.hold? (100 * century)
  let years ← unsigned32.hold? (centuries + yearOfCentury)
  let marchYear ← unsigned32.hold? (years + late)
  let signedYear ← signed32.hold? marchYear
  let year ← signed32.hold? (signedYear - yearShift)
  pure ⟨year, month.toNat, day.toNat⟩

theorem yearAndDayInWords_eq {quarters : Nat} (small : quarters < 146100) :
    yearAndDayInWords quarters =
      some (↑(quarters / 1461), ↑((quarters - 1461 * (quarters / 1461)) / 4)) := by
  have year : 376287347 * (quarters : Int) / 0x8000000000 = (quarters / 1461 : Nat) := by
    have product := yearOfCentury_eq small
    omega
  have day : ((quarters : Int) - 1461 * (quarters / 1461 : Nat)) / 4 =
      ((quarters - 1461 * (quarters / 1461)) / 4 : Nat) := by
    omega
  unfold yearAndDayInWords
  refine step_unsigned64 (by omega) (by omega) ?_
  rw [year]
  refine step_unsigned32 (by omega) (by omega) ?_
  refine step_unsigned32 (by omega) (by omega) ?_
  refine step_unsigned32 (by omega) (by omega) ?_
  rw [day]
  refine step_unsigned32 (by omega) (by omega) ?_
  rfl

theorem monthAndDayInWords_eq {dayOfYear late : Nat} (dayLe : dayOfYear ≤ 365)
    (lateEq : late = if 306 ≤ dayOfYear then 1 else 0) :
    monthAndDayInWords dayOfYear late =
      some (↑((2141 * dayOfYear + 197913) / 0x10000 - 12 * late),
        ↑((2141 * dayOfYear + 197913) % 0x10000 / 2141 + 1)) := by
  have month : (2141 * (dayOfYear : Int) + 197913) / 0x10000 - 12 * late =
      ((2141 * dayOfYear + 197913) / 0x10000 - 12 * late : Nat) := by
    split at lateEq <;> omega
  have day : (2141 * (dayOfYear : Int) + 197913) % 0x10000 / 2141 + 1 =
      ((2141 * dayOfYear + 197913) % 0x10000 / 2141 + 1 : Nat) := by
    omega
  have lateLe : late ≤ 1 := by
    split at lateEq <;> omega
  unfold monthAndDayInWords
  refine step_unsigned32 (by omega) (by omega) ?_
  refine step_unsigned32 (by omega) (by omega) ?_
  refine step_unsigned32 (by omega) (by omega) ?_
  rw [month]
  refine step_unsigned32 (by omega) (by omega) ?_
  refine step_unsigned8 (by omega) (by omega) ?_
  rw [day]
  refine step_unsigned32 (by omega) (by omega) ?_
  refine step_unsigned8 (by omega) (by omega) ?_
  rfl

/-- The count of days from March on is small enough for all steps, whether it is that of a supported
date or not. -/
theorem dateInWords_eq {days : Int} (low : 0 ≤ days + dayShift) (high : days + dayShift < 2 ^ 28) :
    dateInWords days = some (dateOfEpochDay days) := by
  obtain ⟨marchDays, shift⟩ : ∃ marchDays : Nat, days + dayShift = marchDays :=
    ⟨(days + dayShift).toNat, by omega⟩
  let century := (4 * marchDays + 3) / 146097
  let quarters := 4 * ((4 * marchDays + 3) % 146097 / 4) + 3
  let yearOfCentury := quarters / 1461
  let dayOfYear := (quarters - 1461 * yearOfCentury) / 4
  let late := if 306 ≤ dayOfYear then 1 else 0
  have taken : ((marchDays : Int) % 0x100000000).toNat = marchDays := by omega
  have wrapped : (4 * marchDays + 3) % 0x100000000 = 4 * marchDays + 3 := by omega
  have rounded : ((4 * marchDays + 3) % 146097) ||| 3 = quarters := or_three _
  have small : quarters < 146100 := by omega
  have year : 376287347 * quarters / 0x8000000000 = yearOfCentury := yearOfCentury_eq small
  have shape : dateOfEpochDay days =
      ⟨(100 * century + yearOfCentury + late : Nat) - yearShift,
        (2141 * dayOfYear + 197913) / 0x10000 - 12 * late,
        (2141 * dayOfYear + 197913) % 0x10000 / 2141 + 1⟩ := by
    unfold dateOfEpochDay
    simp only [shift, taken, wrapped, rounded, year]
    rfl
  have centuryEq : (4 * (marchDays : Int) + 3) / 146097 = century := by omega
  have quartersEq : (((4 * (marchDays : Int) + 3) % 146097).toNat ||| 3) = quarters := by
    rw [← rounded]
    rfl
  have dayLe : dayOfYear ≤ 365 := by omega
  have yearLe : yearOfCentury ≤ 99 := by omega
  have lateEq : (if (306 : Int) ≤ dayOfYear then 1 else 0 : Int) = late := by
    show _ = ((if 306 ≤ dayOfYear then 1 else 0 : Nat) : Int)
    split <;> split <;> omega
  have lateLe : late ≤ 1 := by
    show (if 306 ≤ dayOfYear then 1 else 0) ≤ 1
    split <;> omega
  unfold dateInWords
  rw [shift]
  refine step_signed32 (by omega) (by omega) ?_
  refine step_unsigned32 (by omega) (by omega) ?_
  refine step_unsigned32 (by omega) (by omega) ?_
  refine step_unsigned32 (by omega) (by omega) ?_
  rw [centuryEq]
  refine step_unsigned32 (by omega) (by omega) ?_
  rw [quartersEq]
  refine step_unsigned32 (by omega) (by omega) ?_
  rw [yearAndDayInWords_eq small, Option.bind_eq_bind, Option.bind_some]
  dsimp only
  rw [lateEq, monthAndDayInWords_eq dayLe rfl, Option.bind_some]
  refine step_unsigned32 (by omega) (by omega) ?_
  refine step_unsigned32 (by omega) (by omega) ?_
  refine step_unsigned32 (by omega) (by omega) ?_
  refine step_signed32 (by omega) (by omega) ?_
  unfold yearShift at shape ⊢
  refine step_signed32 (by omega) (by omega) ?_
  rw [shape, Int.toNat_natCast, Int.toNat_natCast]
  push_cast
  rfl

theorem Date.IsValid.dateInWords_eq {date : Date} (valid : date.IsValid) :
    dateInWords date.epochDay = some date := by
  obtain ⟨low, high⟩ := valid.dayCount_bounds
  rw [Gregorian.dateInWords_eq low high, dateOfEpochDay_epochDay valid]

/-! ## Both ways -/

/-- Dates and counts of days correspond to each other, and counts of days go up by one from each date
to the next. Taken in machine words, no step of either conversion leaves its word. -/
theorem conversions_exact :
    (∀ date : Date, date.IsValid →
      dateOfEpochDay date.epochDay = date ∧
      date.next.epochDay = date.epochDay + 1 ∧
      epochDayInWords date.year date.month date.day = some date.epochDay ∧
      dateInWords date.epochDay = some date) ∧
    (∀ day, epochDay minYear 1 1 ≤ day → day ≤ epochDay maxYear 12 31 →
      (dateOfEpochDay day).IsValid ∧
      (dateOfEpochDay day).epochDay = day ∧
      dateInWords day = some (dateOfEpochDay day)) ∧
    epochDay 1970 1 1 = 0 := by
  refine ⟨fun date valid => ?_, fun day dayGe dayLe => ?_, rfl⟩
  · exact ⟨dateOfEpochDay_epochDay valid, valid.epochDay_next, valid.epochDayInWords_eq,
      valid.dateInWords_eq⟩
  · have valid := dateOfEpochDay_isValid dayGe dayLe
    have same := epochDay_dateOfEpochDay dayGe dayLe
    refine ⟨valid, same, ?_⟩
    rw [← same]
    exact same.symm ▸ valid.dateInWords_eq

/-- The last leap day and the last day of all. -/
theorem conversions_exact_last :
    Date.IsValid ⟨275760, 2, 29⟩ ∧
    (dateOfEpochDay (Date.epochDay ⟨275760, 2, 29⟩) = ⟨275760, 2, 29⟩ ∧
      (Date.next ⟨275760, 2, 29⟩).epochDay = Date.epochDay ⟨275760, 2, 29⟩ + 1 ∧
      epochDayInWords 275760 2 29 = some (Date.epochDay ⟨275760, 2, 29⟩) ∧
      dateInWords (Date.epochDay ⟨275760, 2, 29⟩) = some ⟨275760, 2, 29⟩) ∧
    epochDay minYear 1 1 ≤ 100000109 ∧ 100000109 ≤ epochDay maxYear 12 31 ∧
    ((dateOfEpochDay 100000109).IsValid ∧
      (dateOfEpochDay 100000109).epochDay = 100000109 ∧
      dateInWords 100000109 = some (dateOfEpochDay 100000109)) := by
  have leapDay : Date.IsValid ⟨275760, 2, 29⟩ :=
    ⟨by decide, by decide, by decide, by decide, by decide, by decide⟩
  have first : epochDay minYear 1 1 ≤ 100000109 := by decide
  have last : 100000109 ≤ epochDay maxYear 12 31 := by decide
  exact ⟨leapDay, conversions_exact.1 ⟨275760, 2, 29⟩ leapDay, first, last,
    conversions_exact.2.1 100000109 first last⟩

end ChronoText.Gregorian
