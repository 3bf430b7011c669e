import ChronoText.Proofs.Gregorian.WeekDates
import ChronoText.Proofs.Parsing.Resolution
import ChronoText.Proofs.Temporal.Instants

/-! What the components in a bucket state about a date-time. Of components that say the same in two
ways only the one that goes before the other counts. A bucket whose components lie in their ranges
makes the date-time that agrees with what they state, and makes none if no date-time does. -/

set_option autoImplicit false

namespace ChronoText

namespace Gregorian

/-- Every weekday of every week of a supported year is that of a supported date. -/
theorem exists_weekDate {weekYear week weekday : Int} (yearGe : minYear ≤ weekYear)
    (yearLe : weekYear ≤ maxYear) (weekGe : 1 ≤ week) (weekLe : week ≤ weeksInYear weekYear)
    (weekdayGe : 1 ≤ weekday) (weekdayLe : weekday ≤ 7) :
    ∃ date : Date, date.IsValid ∧ weekDate date = (weekYear, week) ∧
      dayOfWeek date.epochDay = weekday ∧
      date.epochDay = weekYearStart weekYear + (week - 1) * 7 + weekday - 1 := by
  have monday := weekYearStart_eq weekYear
  have start := weekYearStart_bounds weekYear
  have nextStart := weekYearStart_bounds (weekYear + 1)
  have next := weekYearStart_add_one weekYear
  have thursday : InYear weekYear (weekYearStart weekYear + (week - 1) * 7 + 3) := by
    unfold InYear
    omega
  obtain ⟨thursdayGe, thursdayLe⟩ := thursday.supported yearGe yearLe
  -- The first supported day is a Friday and the last one a Wednesday.
  have first := firstDay_eq
  have last := lastDay_eq
  obtain ⟨date, valid, day⟩ :=
    @exists_date (weekYearStart weekYear + (week - 1) * 7 + weekday - 1) (by omega) (by omega)
  have found : dayOfWeek date.epochDay = weekday := by
    unfold dayOfWeek
    omega
  have ownThursday := thursdayOfWeek_inYear valid
  unfold thursdayOfWeek at ownThursday
  have inWeek : date.epochDay - dayOfWeek date.epochDay + 4 =
      weekYearStart weekYear + (week - 1) * 7 + 3 := by
    omega
  rw [inWeek] at ownThursday
  have year := ownThursday.unique thursday
  have back := weekYearStart_weekDate valid
  rw [year] at back
  exact ⟨date, valid, Prod.ext year (by simp only; omega), found, day⟩

/-- Every number of a day in a supported year is that of a supported date. -/
theorem exists_dayOfYear {year number : Int} (yearGe : minYear ≤ year) (yearLe : year ≤ maxYear)
    (numberGe : 1 ≤ number) (numberLe : number ≤ daysInYear year) :
    ∃ date : Date, date.IsValid ∧ date.year = year ∧ dayOfYear date = number ∧
      date.epochDay = epochDay year 1 1 + number - 1 := by
  have next := epochDay_add_one_year year
  have within : InYear year (epochDay year 1 1 + number - 1) := by
    unfold InYear
    omega
  obtain ⟨dayGe, dayLe⟩ := within.supported yearGe yearLe
  obtain ⟨date, valid, day⟩ := exists_date dayGe dayLe
  have own := valid.inYear
  rw [day] at own
  have same := own.unique within
  refine ⟨date, valid, same, ?_, day⟩
  unfold dayOfYear
  rw [same]
  omega

theorem january_isValid {year : Int} {day : Nat} (yearGe : minYear ≤ year)
    (yearLe : year ≤ maxYear) (dayGe : 1 ≤ day) (dayLe : day ≤ 31) :
    Date.IsValid ⟨year, 1, day⟩ :=
  ⟨yearGe, yearLe, Nat.le_refl 1, Nat.le_of_ble_eq_true rfl, dayGe, dayLe⟩

/-- The first days of a year are those of January. -/
theorem dayOfYear_le_iff {date : Date} (valid : date.IsValid) {limit : Nat} (short : limit ≤ 31) :
    dayOfYear date ≤ limit ↔ date.month = 1 ∧ date.day ≤ limit := by
  have fromFirst := (dayOfYear_bounds valid).1
  have number : dayOfYear date = date.epochDay - epochDay date.year 1 1 + 1 := rfl
  constructor
  · intro early
    have january : Date.IsValid ⟨date.year, 1, (dayOfYear date).toNat⟩ :=
      january_isValid valid.year_ge valid.year_le (by omega) (by omega)
    have same : Date.epochDay ⟨date.year, 1, (dayOfYear date).toNat⟩ = date.epochDay := by
      show epochDay date.year 1 (dayOfYear date).toNat = date.epochDay
      rw [epochDay_day]
      omega
    have found := dateOfEpochDay_epochDay valid
    rw [← same, dateOfEpochDay_epochDay january] at found
    have month := congrArg Date.month found
    have day := congrArg Date.day found
    dsimp only at month day
    omega
  · rintro ⟨first, early⟩
    have own : date.epochDay = epochDay date.year 1 1 + date.day - 1 := by
      rw [← epochDay_day, ← first]
      rfl
    omega

theorem dayOfYear_eq_one_iff {date : Date} (valid : date.IsValid) :
    dayOfYear date = 1 ↔ date.month = 1 ∧ date.day = 1 := by
  have early := dayOfYear_le_iff valid (show 1 ≤ 31 by decide)
  have ordinalGe := (dayOfYear_bounds valid).1
  have dayGe := valid.day_ge
  omega

end Gregorian

theorem TimeOfDay.midnight_isValid : midnight.IsValid :=
  ⟨by decide, by decide, by decide, by decide⟩

namespace Bucket

open Gregorian

/-- The components are ones that reading takes. -/
def InRange (bucket : Bucket) : Prop :=
  ∀ field, ∀ value ∈ bucket.fields field, field.admits value = true

variable {bucket : Bucket}

theorem inRange_empty : empty.InRange :=
  nofun

theorem InRange.setField (inRange : bucket.InRange) {field : DateTimeField} {value : Int}
    (admitted : field.admits value = true) : (bucket.setField field value).InRange := by
  intro other held read
  rw [fields_setField] at read
  split at read
  · next same =>
      cases read
      rw [same]
      exact admitted
  · exact inRange other held read

theorem InRange.bounds (inRange : bucket.InRange) {field : DateTimeField} {value : Int}
    (read : bucket.fields field = some value) {least greatest : Int}
    (range : field.parseRange? = some (least, greatest)) : least ≤ value ∧ value ≤ greatest := by
  have admitted := inRange field value read
  rw [DateTimeField.admits, range, Bool.and_eq_true, decide_eq_true_eq, decide_eq_true_eq]
    at admitted
  exact admitted

theorem InRange.getD_bounds (inRange : bucket.InRange) (field : DateTimeField) (missing : Int)
    {least greatest : Int} (range : field.parseRange? = some (least, greatest))
    (missingGe : least ≤ missing) (missingLe : missing ≤ greatest) :
    least ≤ (bucket.fields field).getD missing ∧ (bucket.fields field).getD missing ≤ greatest := by
  cases read : bucket.fields field with
  | none => exact ⟨missingGe, missingLe⟩
  | some value => exact inRange.bounds read range

/-! ## What components state -/

/-- The year that the components of years state. -/
def statedYear (bucket : Bucket) : Int :=
  let inEra (yearOfEra : Int) : Int :=
    if bucket.fields .era = some 0 then 1 - yearOfEra else yearOfEra
  let ofEra := (bucket.fields .yearOfEra <|> (bucket.fields .centuryOfEra).map (· * 100)).map inEra
  (bucket.fields .year <|> ofEra).getD 1970

structure StatesCalendarDate (bucket : Bucket) (date : Date) : Prop where
  year : date.year = bucket.statedYear
  month : date.month = (bucket.fields .monthOfYear).getD 1
  day : date.day = (bucket.fields .dayOfMonth).getD 1

/-- The year of weeks that the components state has to be a supported one, although some weeks of
the years next to them have supported days. -/
structure StatesWeekDate (bucket : Bucket) (date : Date) : Prop where
  weekYear : (weekDate date).1 = (bucket.fields .weekYear).getD bucket.statedYear
  week : (weekDate date).2 = (bucket.fields .weekOfWeekYear).getD 1
  weekday : dayOfWeek date.epochDay = (bucket.fields .dayOfWeek).getD 1
  weekYear_ge : minYear ≤ (weekDate date).1
  weekYear_le : (weekDate date).1 ≤ maxYear

structure StatesOrdinalDate (bucket : Bucket) (date : Date) : Prop where
  year : date.year = bucket.statedYear
  dayOfYear : Gregorian.dayOfYear date = (bucket.fields .dayOfYear).getD 1

def hasWeek (bucket : Bucket) : Bool :=
  (bucket.fields .weekYear).isSome || (bucket.fields .weekOfWeekYear).isSome

def StatesDate (bucket : Bucket) (date : Date) : Prop :=
  if bucket.hasMonthOrDay then bucket.StatesCalendarDate date
  else if bucket.hasWeek then bucket.StatesWeekDate date
  else bucket.StatesOrdinalDate date

def statedHourOfHalfDay (bucket : Bucket) : Int :=
  (bucket.fields .hourOfHalfDay <|> (bucket.fields .clockHourOfHalfDay).map (· % 12)).getD 0

def statedHour (bucket : Bucket) : Int :=
  (bucket.fields .hourOfDay <|> (bucket.fields .clockHourOfDay).map (· % 24)).getD
    (12 * (bucket.fields .halfDayOfDay).getD 0 + bucket.statedHourOfHalfDay)

def statedNanosecond (bucket : Bucket) : Int :=
  (bucket.fields .nanoOfSecond <|> (bucket.fields .millisOfSecond).map (· * 1000000)).getD 0

structure StatesClock (bucket : Bucket) (time : TimeOfDay) : Prop where
  hour : time.hour = bucket.statedHour
  minute : time.minute = (bucket.fields .minuteOfHour).getD 0
  second : time.second = (bucket.fields .secondOfMinute).getD 0
  nanosecond : time.nanosecond = bucket.statedNanosecond

def hasClock (bucket : Bucket) : Bool :=
  clockFields.any fun field => (bucket.fields field).isSome

def StatesTime (bucket : Bucket) (time : TimeOfDay) : Prop :=
  match bucket.hasClock, bucket.fields .millisOfDay with
  | false, some millisOfDay => time.nanosecondOfDay = millisOfDay * 1000000
  | _, _ => bucket.StatesClock time

/-- The components state the date and the time, and a day of the week among them is that of the
date. -/
structure States (bucket : Bucket) (value : LocalDateTime) : Prop where
  date : bucket.StatesDate value.date
  weekday : ∀ weekday ∈ bucket.fields .dayOfWeek, weekday = dayOfWeek value.epochDay
  time : bucket.StatesTime value.time

/-! ## The year -/

theorem yearNumber_eq (inRange : bucket.InRange) : bucket.yearNumber = bucket.statedYear := by
  have kept (yearOfEra : Int) (low : 0 ≤ yearOfEra) (high : yearOfEra ≤ 999999) :
      wrapped 64 (if bucket.fields .era = some 0 then 1 - yearOfEra else yearOfEra) =
        if bucket.fields .era = some 0 then 1 - yearOfEra else yearOfEra := by
    apply wrapped_eq_self <;> split <;> omega
  unfold yearNumber statedYear
  cases year : bucket.fields .year with
  | some year => rfl
  | none =>
      cases readYear : bucket.fields .yearOfEra with
      | some yearOfEra =>
          have bounds := inRange.bounds readYear rfl
          exact kept yearOfEra (by omega) (by omega)
      | none =>
          cases readCentury : bucket.fields .centuryOfEra with
          | some century =>
              have bounds := inRange.bounds readCentury rfl
              exact kept (century * 100) (by omega) (by omega)
          | none => rfl

theorem checkedYear_eq_ok_iff {field : DateTimeField} {number year : Int} :
    checkedYear field number = .ok year ↔ number = year ∧ minYear ≤ year ∧ year ≤ maxYear := by
  unfold checkedYear
  split
  · next supported =>
      constructor
      · rintro ⟨⟩
        exact ⟨rfl, supported⟩
      · rintro ⟨rfl, _⟩
        rfl
  · next unsupported =>
      constructor
      · rintro ⟨⟩
      · rintro ⟨rfl, supported⟩
        exact absurd supported unsupported

theorem year_eq_ok_iff (inRange : bucket.InRange) {year : Int} :
    bucket.year = .ok year ↔ bucket.statedYear = year ∧ minYear ≤ year ∧ year ≤ maxYear := by
  rw [Bucket.year, yearNumber_eq inRange, checkedYear_eq_ok_iff]

/-! ## The date -/

theorem weekYear_eq_ok_iff (inRange : bucket.InRange) {weekYear : Int} :
    bucket.weekYear = .ok weekYear ↔
      (bucket.fields .weekYear).getD bucket.statedYear = weekYear ∧ minYear ≤ weekYear ∧
        weekYear ≤ maxYear := by
  unfold Bucket.weekYear
  cases bucket.fields .weekYear with
  | some weekYear => exact checkedYear_eq_ok_iff
  | none => exact year_eq_ok_iff inRange

theorem dayOfCalendarDate_eq_ok_iff (inRange : bucket.InRange) {day : Int} :
    bucket.dayOfCalendarDate = .ok day ↔
      ∃ date : Date, date.IsValid ∧ bucket.StatesCalendarDate date ∧ date.epochDay = day := by
  obtain ⟨monthGe, monthLe⟩ := inRange.getD_bounds .monthOfYear 1 rfl (by decide) (by decide)
  obtain ⟨dayGe, dayLe⟩ := inRange.getD_bounds .dayOfMonth 1 rfl (by decide) (by decide)
  constructor
  · intro made
    obtain ⟨year, found, made⟩ := bind_ok made
    obtain ⟨same, yearGe, yearLe⟩ := (year_eq_ok_iff inRange).mp found
    obtain ⟨month, month_eq⟩ := Int.eq_ofNat_of_zero_le (Int.le_trans (by decide) monthGe)
    obtain ⟨dayOfMonth, dayOfMonth_eq⟩ := Int.eq_ofNat_of_zero_le (Int.le_trans (by decide) dayGe)
    rw [month_eq] at monthGe monthLe
    rw [dayOfMonth_eq] at dayGe dayLe
    simp only [month_eq, dayOfMonth_eq, narrowed_natCast (show month < 2 ^ 8 by omega),
      narrowed_natCast (show dayOfMonth < 2 ^ 8 by omega)] at made
    split at made
    · cases made
    · next inMonth =>
        cases made
        have valid : Date.IsValid ⟨year, month, dayOfMonth⟩ :=
          ⟨yearGe, yearLe, Int.ofNat_le.mp monthGe, Int.ofNat_le.mp monthLe, Int.ofNat_le.mp dayGe,
            Int.ofNat_le.mp (Int.not_lt.mp inMonth)⟩
        exact ⟨⟨year, month, dayOfMonth⟩, valid,
          ⟨same.symm, month_eq.symm, dayOfMonth_eq.symm⟩, rfl⟩
  · rintro ⟨date, valid, states, rfl⟩
    have year := (year_eq_ok_iff inRange).mpr ⟨states.year.symm, valid.year_ge, valid.year_le⟩
    exact dayOfCalendarDate_eq valid year states.month.symm states.day.symm

theorem dayOfWeekDate_eq_ok_iff (inRange : bucket.InRange) {day : Int} :
    bucket.dayOfWeekDate = .ok day ↔
      ∃ date : Date, date.IsValid ∧ bucket.StatesWeekDate date ∧ date.epochDay = day := by
  obtain ⟨weekGe, _⟩ := inRange.getD_bounds .weekOfWeekYear 1 rfl (by decide) (by decide)
  obtain ⟨weekdayGe, weekdayLe⟩ := inRange.getD_bounds .dayOfWeek 1 rfl (by decide) (by decide)
  constructor
  · intro made
    rw [dayOfWeekDate_eq_bind] at made
    obtain ⟨weekYear, found, made⟩ := bind_ok made
    obtain ⟨same, yearGe, yearLe⟩ := (weekYear_eq_ok_iff inRange).mp found
    simp only [dayInWeekYear] at made
    split at made
    · cases made
    · next inYear =>
        obtain ⟨date, valid, week, weekday, dayEq⟩ :=
          exists_weekDate yearGe yearLe weekGe (Int.not_lt.mp inYear) weekdayGe weekdayLe
        rw [← dayEq, wrapped_epochDay valid] at made
        cases made
        refine ⟨date, valid, ⟨?_, ?_, weekday, ?_, ?_⟩, rfl⟩ <;> rw [week]
        · exact same.symm
        · exact yearGe
        · exact yearLe
  · rintro ⟨date, valid, states, rfl⟩
    have weekYear := (weekYear_eq_ok_iff inRange).mpr
      ⟨states.weekYear.symm, states.weekYear_ge, states.weekYear_le⟩
    exact dayOfWeekDate_eq valid weekYear states.week.symm states.weekday.symm

theorem dayOfOrdinalDate_eq_ok_iff (inRange : bucket.InRange) {number day : Int}
    (read : bucket.fields .dayOfYear = some number) :
    bucket.dayOfOrdinalDate number = .ok day ↔
      ∃ date : Date, date.IsValid ∧ bucket.StatesOrdinalDate date ∧ date.epochDay = day := by
  have stated : (bucket.fields .dayOfYear).getD 1 = number := by rw [read, Option.getD_some]
  constructor
  · intro made
    obtain ⟨year, found, made⟩ := bind_ok made
    obtain ⟨same, yearGe, yearLe⟩ := (year_eq_ok_iff inRange).mp found
    split at made
    · cases made
    · next inYear =>
        obtain ⟨date, valid, yearEq, numberEq, dayEq⟩ :=
          exists_dayOfYear yearGe yearLe (inRange.bounds read rfl).1 (Int.not_lt.mp inYear)
        rw [← dayEq, wrapped_epochDay valid] at made
        cases made
        exact ⟨date, valid, ⟨yearEq.trans same.symm, numberEq.trans stated.symm⟩, rfl⟩
  · rintro ⟨date, valid, states, rfl⟩
    have year := (year_eq_ok_iff inRange).mpr ⟨states.year.symm, valid.year_ge, valid.year_le⟩
    rw [← stated, ← states.dayOfYear]
    exact dayOfOrdinalDate_eq valid year

/-- A bucket with no component of a date but the year states the first day of the year in both
ways. -/
theorem statesCalendarDate_iff_ordinal {date : Date} (valid : date.IsValid)
    (noMonthOrDay : bucket.hasMonthOrDay = false) (noDay : bucket.fields .dayOfYear = none) :
    bucket.StatesCalendarDate date ↔ bucket.StatesOrdinalDate date := by
  rw [hasMonthOrDay, Bool.or_eq_false_iff, Option.isSome_eq_false_iff, Option.isSome_eq_false_iff,
    Option.isNone_iff_eq_none, Option.isNone_iff_eq_none] at noMonthOrDay
  constructor
  · rintro ⟨year, month, day⟩
    rw [noMonthOrDay.1, Option.getD_none] at month
    rw [noMonthOrDay.2, Option.getD_none] at day
    refine ⟨year, ?_⟩
    rw [noDay, Option.getD_none, dayOfYear_eq_one_iff valid]
    exact ⟨by omega, by omega⟩
  · rintro ⟨year, number⟩
    rw [noDay, Option.getD_none, dayOfYear_eq_one_iff valid] at number
    refine ⟨year, ?_, ?_⟩
    · rw [noMonthOrDay.1, number.1]
      rfl
    · rw [noMonthOrDay.2, number.2]
      rfl

theorem epochDay_eq_ok_iff (inRange : bucket.InRange) {day : Int} :
    bucket.epochDay = .ok day ↔
      ∃ date : Date, date.IsValid ∧ bucket.StatesDate date ∧ date.epochDay = day := by
  unfold Bucket.epochDay StatesDate hasWeek
  cases monthOrDay : bucket.hasMonthOrDay with
  | true =>
      simp only [if_true]
      exact dayOfCalendarDate_eq_ok_iff inRange
  | false =>
      cases (bucket.fields .weekYear).isSome || (bucket.fields .weekOfWeekYear).isSome with
      | true =>
          simp only [Bool.false_eq_true, if_false, if_true]
          exact dayOfWeekDate_eq_ok_iff inRange
      | false =>
          simp only [Bool.false_eq_true, if_false]
          cases read : bucket.fields .dayOfYear with
          | some number => exact dayOfOrdinalDate_eq_ok_iff inRange read
          | none =>
              simp only [dayOfCalendarDate_eq_ok_iff inRange]
              apply exists_congr
              intro date
              apply and_congr_right
              intro valid
              rw [statesCalendarDate_iff_ordinal valid monthOrDay read]

/-! ## The time -/

theorem natCast_narrowed_eq (bits : Nat) (value : Int) :
    (narrowed bits value : Int) = value % 2 ^ bits := by
  rw [narrowed, BitVec.toNat_ofInt]
  push_cast
  exact Int.toNat_of_nonneg (Int.emod_nonneg value (by positivity))

theorem natCast_narrowed {bits : Nat} {value : Int} (low : 0 ≤ value) (high : value < 2 ^ bits) :
    (narrowed bits value : Int) = value := by
  rw [natCast_narrowed_eq, Int.emod_eq_of_lt low high]

/-- The hour of the half day, which counts where no hour of the whole day was read. -/
def hourOfHalfDay (bucket : Bucket) : Int :=
  match bucket.fields .hourOfHalfDay, bucket.fields .clockHourOfHalfDay with
  | some hour, _ => hour
  | none, some clockHour => clockHour.tmod 12
  | none, none => 0

theorem hour_eq_match (bucket : Bucket) :
    bucket.hour =
      match bucket.fields .hourOfDay, bucket.fields .clockHourOfDay with
      | some hour, _ => hour
      | none, some clockHour => clockHour.tmod 24
      | none, none => (bucket.fields .halfDayOfDay).getD 0 * 12 + bucket.hourOfHalfDay := rfl

theorem statedHourOfHalfDay_bounds (inRange : bucket.InRange) :
    0 ≤ bucket.statedHourOfHalfDay ∧ bucket.statedHourOfHalfDay ≤ 11 := by
  unfold statedHourOfHalfDay
  cases read : bucket.fields .hourOfHalfDay with
  | some hour => exact inRange.bounds read rfl
  | none =>
      cases bucket.fields .clockHourOfHalfDay with
      | some clockHour =>
          show 0 ≤ clockHour % 12 ∧ clockHour % 12 ≤ 11
          omega
      | none => decide

theorem statedHour_bounds (inRange : bucket.InRange) :
    0 ≤ bucket.statedHour ∧ bucket.statedHour ≤ 23 := by
  have halfDay := inRange.getD_bounds .halfDayOfDay 0 rfl (by decide) (by decide)
  have hour := statedHourOfHalfDay_bounds inRange
  unfold statedHour
  cases read : bucket.fields .hourOfDay with
  | some hour => exact inRange.bounds read rfl
  | none =>
      cases bucket.fields .clockHourOfDay with
      | some clockHour =>
          show 0 ≤ clockHour % 24 ∧ clockHour % 24 ≤ 23
          omega
      | none =>
          show 0 ≤ 12 * (bucket.fields .halfDayOfDay).getD 0 + bucket.statedHourOfHalfDay ∧
            12 * (bucket.fields .halfDayOfDay).getD 0 + bucket.statedHourOfHalfDay ≤ 23
          omega

theorem hourOfHalfDay_eq (inRange : bucket.InRange) :
    bucket.hourOfHalfDay = bucket.statedHourOfHalfDay := by
  unfold hourOfHalfDay statedHourOfHalfDay
  cases bucket.fields .hourOfHalfDay with
  | some hour => rfl
  | none =>
      cases read : bucket.fields .clockHourOfHalfDay with
      | some clockHour =>
          have bounds := inRange.bounds read rfl
          exact Int.tmod_eq_emod_of_nonneg (by omega)
      | none => rfl

theorem hour_eq (inRange : bucket.InRange) : bucket.hour = bucket.statedHour := by
  rw [hour_eq_match, statedHour, hourOfHalfDay_eq inRange]
  cases bucket.fields .hourOfDay with
  | some hour => rfl
  | none =>
      cases read : bucket.fields .clockHourOfDay with
      | some clockHour =>
          have bounds := inRange.bounds read rfl
          exact Int.tmod_eq_emod_of_nonneg (by omega)
      | none => exact congrArg (· + bucket.statedHourOfHalfDay) (Int.mul_comm _ 12)

theorem nanosecond_eq (bucket : Bucket) : bucket.nanosecond = bucket.statedNanosecond := by
  unfold Bucket.nanosecond statedNanosecond
  cases bucket.fields .nanoOfSecond with
  | some nanosecond => rfl
  | none => cases bucket.fields .millisOfSecond <;> rfl

theorem statedNanosecond_bounds (inRange : bucket.InRange) :
    0 ≤ bucket.statedNanosecond ∧ bucket.statedNanosecond ≤ 999999999 := by
  unfold statedNanosecond
  cases readNanosecond : bucket.fields .nanoOfSecond with
  | some nanosecond => exact inRange.bounds readNanosecond rfl
  | none =>
      cases readMillis : bucket.fields .millisOfSecond with
      | some millis =>
          have bounds := inRange.bounds readMillis rfl
          show 0 ≤ millis * 1000000 ∧ millis * 1000000 ≤ 999999999
          omega
      | none => decide

theorem timeOfMillis_natCast {millis : Nat} (inDay : millis ≤ 86399999) :
    timeOfMillis millis =
      { hour := millis / 1000 / 3600
        minute := millis / 1000 / 60 % 60
        second := millis / 1000 % 60
        nanosecond := millis % 1000 * 1000000 } := by
  have shape : timeOfMillis millis =
      ⟨narrowed 8 (millis / 1000 / 3600 : Nat), narrowed 8 (millis / 1000 / 60 % 60 : Nat),
        narrowed 8 (millis / 1000 % 60 : Nat), narrowed 32 (millis % 1000 * 1000000 : Nat)⟩ := rfl
  rw [shape, narrowed_natCast (by omega), narrowed_natCast (by omega), narrowed_natCast (by omega),
    narrowed_natCast (by omega)]

theorem timeOfMillis_eq {millis : Nat} (inDay : millis ≤ 86399999) :
    timeOfMillis millis = .ofNanosecondOfDay (millis * 1000000) := by
  rw [timeOfMillis_natCast inDay, TimeOfDay.ofNanosecondOfDay, TimeOfDay.mk.injEq]
  omega

theorem timeOfMillis_states {millisOfDay : Int} (millisGe : 0 ≤ millisOfDay)
    (millisLe : millisOfDay ≤ 86399999) :
    (timeOfMillis millisOfDay).IsValid ∧
      (timeOfMillis millisOfDay).nanosecondOfDay = millisOfDay * 1000000 := by
  obtain ⟨millis, rfl⟩ := Int.eq_ofNat_of_zero_le millisGe
  rw [timeOfMillis_eq (Int.ofNat_le.mp millisLe), TimeOfDay.nanosecondOfDay_ofNanosecondOfDay]
  constructor
  · apply TimeOfDay.ofNanosecondOfDay_isValid
    unfold LocalDateTime.nanosecondsPerDay
    omega
  · push_cast
    rfl

/-- The time of the components that say what a clock shows. -/
def clockTime (bucket : Bucket) : TimeOfDay :=
  { hour := narrowed 8 bucket.hour
    minute := narrowed 8 ((bucket.fields .minuteOfHour).getD 0)
    second := narrowed 8 ((bucket.fields .secondOfMinute).getD 0)
    nanosecond := narrowed 32 bucket.nanosecond }

theorem timeOfDay_eq_match (bucket : Bucket) :
    bucket.timeOfDay =
      if bucket.hasClock then bucket.clockTime
      else
        match bucket.fields .millisOfDay with
        | some millisOfDay => timeOfMillis millisOfDay
        | none => bucket.clockTime := rfl

theorem clockTime_states (inRange : bucket.InRange) :
    bucket.clockTime.IsValid ∧ bucket.StatesClock bucket.clockTime := by
  have hourBounds := statedHour_bounds inRange
  have minuteBounds := inRange.getD_bounds .minuteOfHour 0 rfl (by decide) (by decide)
  have secondBounds := inRange.getD_bounds .secondOfMinute 0 rfl (by decide) (by decide)
  have nanosecondBounds := statedNanosecond_bounds inRange
  have states : bucket.StatesClock bucket.clockTime := by
    refine ⟨?_, natCast_narrowed minuteBounds.1 (by omega),
      natCast_narrowed secondBounds.1 (by omega), ?_⟩
    · rw [← hour_eq inRange] at hourBounds ⊢
      exact natCast_narrowed hourBounds.1 (by omega)
    · rw [← nanosecond_eq] at nanosecondBounds ⊢
      exact natCast_narrowed nanosecondBounds.1 (by omega)
  obtain ⟨hour, minute, second, nanosecond⟩ := states
  exact ⟨⟨by omega, by omega, by omega, by omega⟩, ⟨hour, minute, second, nanosecond⟩⟩

/-- The time that the components make is one of the day, and the components state it. -/
theorem timeOfDay_states (inRange : bucket.InRange) :
    bucket.timeOfDay.IsValid ∧ bucket.StatesTime bucket.timeOfDay := by
  rw [timeOfDay_eq_match]
  unfold StatesTime
  cases bucket.hasClock with
  | true => exact clockTime_states inRange
  | false =>
      cases read : bucket.fields .millisOfDay with
      | some millisOfDay =>
          have bounds := inRange.bounds read rfl
          exact timeOfMillis_states bounds.1 bounds.2
      | none => exact clockTime_states inRange

theorem StatesClock.unique {first second : TimeOfDay} (firstStated : bucket.StatesClock first)
    (secondStated : bucket.StatesClock second) : first = second := by
  obtain ⟨firstHour, firstMinute, firstSecond, firstNanosecond⟩ := firstStated
  obtain ⟨secondHour, secondMinute, secondSecond, secondNanosecond⟩ := secondStated
  obtain ⟨hour, minute, second', nanosecond⟩ := first
  obtain ⟨_, _, _, _⟩ := second
  simp only at *
  rw [TimeOfDay.mk.injEq]
  omega

theorem StatesTime.unique {first second : TimeOfDay} (firstStated : bucket.StatesTime first)
    (secondStated : bucket.StatesTime second) (firstValid : first.IsValid)
    (secondValid : second.IsValid) : first = second := by
  unfold StatesTime at firstStated secondStated
  cases clock : bucket.hasClock with
  | true =>
      rw [clock] at firstStated secondStated
      exact StatesClock.unique firstStated secondStated
  | false =>
      rw [clock] at firstStated secondStated
      cases read : bucket.fields .millisOfDay with
      | some millisOfDay =>
          rw [read] at firstStated secondStated
          have same : first.nanosecondOfDay = second.nanosecondOfDay :=
            Int.ofNat_inj.mp (firstStated.trans secondStated.symm)
          rw [← firstValid.ofNanosecondOfDay_nanosecondOfDay, same,
            secondValid.ofNanosecondOfDay_nanosecondOfDay]
      | none =>
          rw [read] at firstStated secondStated
          exact StatesClock.unique firstStated secondStated

/-! ## The date-time -/

theorem toLocal_of_other_weekday {date : Date} (valid : date.IsValid)
    (day : bucket.epochDay = .ok date.epochDay) {weekday : Int}
    (read : bucket.fields .dayOfWeek = some weekday) (other : dayOfWeek date.epochDay ≠ weekday) :
    bucket.toLocal = .error (outOfRange weekday .dayOfWeek) := by
  unfold Bucket.toLocal
  simp only [day, read, dayOfWeekOf_epochDay valid, ne_eq, other, not_false_eq_true, if_true, bind,
    Except.bind]
  rfl

/-- A bucket makes a date-time just if its components state it. -/
theorem toLocal_eq_ok_iff (inRange : bucket.InRange) {value : LocalDateTime} :
    bucket.toLocal = .ok value ↔ value.IsValid ∧ bucket.States value := by
  obtain ⟨timeValid, timeStated⟩ := timeOfDay_states inRange
  constructor
  · intro made
    obtain ⟨day, found, agree, made⟩ := toLocal_eq_ok_iff_parts.mp made
    obtain ⟨date, valid, stated, rfl⟩ := (epochDay_eq_ok_iff inRange).mp found
    rw [dateOfEpochDay_epochDay valid, LocalDateTime.ofParts_of_valid valid timeValid] at made
    rw [dayOfWeekOf_epochDay valid] at agree
    cases made
    exact ⟨⟨valid, timeValid⟩, stated, agree, timeStated⟩
  · rintro ⟨⟨valid, valueTimeValid⟩, stated, agree, valueTimeStated⟩
    have day := (epochDay_eq_ok_iff inRange).mpr ⟨value.date, valid, stated, rfl⟩
    rw [toLocal_of_epochDay valid day agree timeValid,
      timeStated.unique valueTimeStated timeValid valueTimeValid]

end Bucket

end ChronoText
