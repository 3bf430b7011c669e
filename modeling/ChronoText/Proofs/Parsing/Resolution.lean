import ChronoText.Parsing.Resolution
import ChronoText.Proofs.Gregorian.Weeks

/-! Resolution of components that belong together. A bucket with the year, the month and the day of
a date makes that date, whatever other components of the date it holds, as long as a day of the week
among them is that of the date. -/

set_option autoImplicit false

namespace ChronoText

theorem bind_ok {ε α β : Type} {computation : Except ε α} {next : α → Except ε β} {result : β}
    (accepted : computation >>= next = .ok result) :
    ∃ value, computation = .ok value ∧ next value = .ok result := by
  cases computation with
  | error error => cases accepted
  | ok value => exact ⟨value, rfl, accepted⟩

namespace Gregorian

/-- The days of supported dates are far from the ends of a word of 32 bits. -/
theorem Date.IsValid.epochDay_bounds {date : Date} (valid : date.IsValid) :
    -2 ^ 30 < date.epochDay ∧ date.epochDay < 2 ^ 30 := by
  have days := valid.dayCount_bounds
  unfold dayShift at days
  omega

end Gregorian

namespace LocalDateTime

open Gregorian

theorem ofParts_of_valid {date : Date} {time : TimeOfDay} (dateValid : date.IsValid)
    (timeValid : time.IsValid) : ofParts date time = .ok ⟨date, time⟩ := by
  obtain ⟨yearGe, yearLe, monthGe, monthLe, dayGe, dayLe⟩ := dateValid
  obtain ⟨hourLe, minuteLe, secondLe, nanosecondLe⟩ := timeValid
  have noYear : ¬ (date.year < minYear ∨ maxYear < date.year) := by omega
  have noMonth : ¬ (date.month < 1 ∨ 12 < date.month) := by omega
  have noDay : ¬ (date.day = 0 ∨ daysInMonth date.year date.month < date.day) := by omega
  have noTime : ¬ (23 < time.hour ∨ 59 < time.minute ∨ 59 < time.second
      ∨ 999999999 < time.nanosecond) := by omega
  simp only [ofParts, ofDate, withTime, noYear, noMonth, noDay, noTime, if_false, bind, Except.bind,
    pure, Except.pure]

theorem ofParts_eq_ok_iff {date : Date} {time : TimeOfDay} {value : LocalDateTime} :
    ofParts date time = .ok value ↔ value.IsValid ∧ date = value.date ∧ time = value.time := by
  constructor
  · intro made
    obtain ⟨midnight, dated, timed⟩ := bind_ok made
    unfold ofDate at dated
    split at dated
    · cases dated
    next yearOk =>
    split at dated
    · cases dated
    next monthOk =>
    split at dated
    · cases dated
    next dayOk =>
    cases dated
    unfold withTime at timed
    split at timed
    · cases timed
    next timeOk =>
    cases timed
    have dateValid : date.IsValid := by constructor <;> omega
    have timeValid : time.IsValid := by constructor <;> omega
    exact ⟨⟨dateValid, timeValid⟩, rfl, rfl⟩
  · rintro ⟨valid, rfl, rfl⟩
    exact ofParts_of_valid valid.date valid.time

end LocalDateTime

namespace Bucket

open Gregorian

variable {bucket : Bucket}

theorem narrowed_natCast {bits value : Nat} (small : value < 2 ^ bits) :
    narrowed bits (value : Int) = value := by
  rw [narrowed, BitVec.ofInt_natCast, BitVec.toNat_ofNat, Nat.mod_eq_of_lt small]

theorem wrapped_eq_self {bits : Nat} {value : Int} (above : -2 ^ bits ≤ value)
    (below : value < 2 ^ bits) : wrapped (bits + 1) value = value := by
  have size : ((2 ^ (bits + 1) : Nat) : Int) = 2 * 2 ^ bits := by
    rw [Nat.pow_succ']
    simp
  rw [wrapped, BitVec.toInt_ofInt]
  apply Int.bmod_eq_of_le_mul_two <;> omega

theorem wrapped_epochDay {date : Date} (valid : date.IsValid) :
    wrapped 32 date.epochDay = date.epochDay := by
  obtain ⟨above, below⟩ := valid.epochDay_bounds
  apply wrapped_eq_self <;> omega

theorem dayOfCalendarDate_eq {date : Date} (valid : date.IsValid)
    (year : bucket.year = .ok date.year)
    (monthOfYear : (bucket.fields .monthOfYear).getD 1 = date.month)
    (dayOfMonth : (bucket.fields .dayOfMonth).getD 1 = date.day) :
    bucket.dayOfCalendarDate = .ok date.epochDay := by
  obtain ⟨yearGe, yearLe, monthGe, monthLe, dayGe, dayLe⟩ := valid
  have month : narrowed 8 (date.month : Int) = date.month := narrowed_natCast (by omega)
  have short := daysInMonth_le_thirtyOne date.year date.month
  have day : narrowed 8 (date.day : Int) = date.day := narrowed_natCast (by omega)
  have inMonth : ¬ ((daysInMonth date.year date.month : Int) < date.day) := by omega
  unfold dayOfCalendarDate
  simp only [monthOfYear, dayOfMonth, year, bind, Except.bind, pure, Except.pure, month, inMonth,
    if_false, day]
  rfl

/-- The year of weeks of a week date. -/
def weekYear (bucket : Bucket) : Except Failure Int :=
  match bucket.fields .weekYear with
  | some weekYear => checkedYear .weekYear weekYear
  | none => bucket.year

/-- The day of a week date whose year of weeks is known. -/
def dayInWeekYear (bucket : Bucket) (weekYear : Int) : Except Failure Int :=
  let week := (bucket.fields .weekOfWeekYear).getD 1
  if weeksInYear weekYear < week then throw (outOfRange week .weekOfWeekYear)
  else
    pure (wrapped 32
      (weekYearStart weekYear + (week - 1) * 7 + (bucket.fields .dayOfWeek).getD 1 - 1))

theorem dayOfWeekDate_eq_bind (bucket : Bucket) :
    bucket.dayOfWeekDate = bucket.weekYear >>= bucket.dayInWeekYear := by
  unfold dayOfWeekDate weekYear dayInWeekYear
  cases bucket.fields .weekYear <;> rfl

theorem dayOfWeekDate_eq {date : Date} (valid : date.IsValid)
    (weekYear : bucket.weekYear = .ok (weekDate date).1)
    (week : (bucket.fields .weekOfWeekYear).getD 1 = (weekDate date).2)
    (weekday : (bucket.fields .dayOfWeek).getD 1 = dayOfWeek date.epochDay) :
    bucket.dayOfWeekDate = .ok date.epochDay := by
  have inYear : ¬ weeksInYear (weekDate date).1 < (weekDate date).2 :=
    Int.not_lt.mpr (weekDate_le date)
  rw [dayOfWeekDate_eq_bind, weekYear]
  show bucket.dayInWeekYear (weekDate date).1 = .ok date.epochDay
  unfold dayInWeekYear
  simp only [week, weekday, inYear, if_false, weekYearStart_weekDate valid, wrapped_epochDay valid]
  rfl

theorem dayOfOrdinalDate_eq {date : Date} (valid : date.IsValid)
    (year : bucket.year = .ok date.year) :
    bucket.dayOfOrdinalDate (dayOfYear date) = .ok date.epochDay := by
  have inYear : ¬ (daysInYear date.year : Int) < dayOfYear date :=
    Int.not_lt.mpr (dayOfYear_bounds valid).2
  have day : Gregorian.epochDay date.year 1 1 + dayOfYear date - 1 = date.epochDay := by
    unfold dayOfYear
    omega
  unfold dayOfOrdinalDate
  simp only [year, bind, Except.bind, pure, Except.pure, inYear, if_false, day,
    wrapped_epochDay valid]

theorem dayOfWeekOf_epochDay {date : Date} (valid : date.IsValid) :
    dayOfWeekOf date.epochDay = dayOfWeek date.epochDay := by
  obtain ⟨above, below⟩ := valid.epochDay_bounds
  have kept : wrapped 32 (date.epochDay + 3) = date.epochDay + 3 := by
    apply wrapped_eq_self <;> omega
  unfold dayOfWeekOf
  rw [kept, Int.add_sub_cancel]

theorem toLocal_eq_ok_iff_parts {value : LocalDateTime} :
    bucket.toLocal = .ok value ↔
      ∃ day, bucket.epochDay = .ok day ∧
        (∀ weekday ∈ bucket.fields .dayOfWeek, weekday = dayOfWeekOf day) ∧
        LocalDateTime.ofParts (dateOfEpochDay day) bucket.timeOfDay = .ok value := by
  unfold Bucket.toLocal
  cases bucket.epochDay with
  | error failure => simp [bind, Except.bind]
  | ok day =>
      simp only [bind, Except.bind, Except.ok.injEq, exists_eq_left']
      cases bucket.fields .dayOfWeek with
      | none =>
          cases LocalDateTime.ofParts (dateOfEpochDay day) bucket.timeOfDay <;>
            simp [pure, Except.pure, throw, throwThe, MonadExceptOf.throw]
      | some weekday =>
          by_cases agrees : weekday = dayOfWeekOf day
          · cases LocalDateTime.ofParts (dateOfEpochDay day) bucket.timeOfDay <;>
              simp [agrees, pure, Except.pure, throw, throwThe, MonadExceptOf.throw]
          · simp [agrees, Ne.symm agrees, throw, throwThe, MonadExceptOf.throw]

/-- A bucket whose components make the day of a date makes that date at the time that the other
components make. -/
theorem toLocal_of_epochDay {date : Date} (valid : date.IsValid)
    (day : bucket.epochDay = .ok date.epochDay)
    (weekday : ∀ day ∈ bucket.fields .dayOfWeek, day = dayOfWeek date.epochDay)
    (time : bucket.timeOfDay.IsValid) : bucket.toLocal = .ok ⟨date, bucket.timeOfDay⟩ := by
  refine toLocal_eq_ok_iff_parts.mpr ⟨date.epochDay, day, ?_, ?_⟩
  · rwa [dayOfWeekOf_epochDay valid]
  · rw [dateOfEpochDay_epochDay valid]
    exact LocalDateTime.ofParts_of_valid valid time

structure HoldsDate (bucket : Bucket) (date : Date) : Prop where
  year : bucket.fields .year = some date.year
  monthOfYear : bucket.fields .monthOfYear = some (date.month : Int)
  dayOfMonth : bucket.fields .dayOfMonth = some (date.day : Int)

theorem year_eq_of_yearNumber {date : Date} (valid : date.IsValid)
    (number : bucket.yearNumber = date.year) : bucket.year = .ok date.year := by
  unfold Bucket.year checkedYear
  rw [number, if_pos ⟨valid.year_ge, valid.year_le⟩]
  rfl

theorem HoldsDate.epochDay {date : Date} (holds : bucket.HoldsDate date) (valid : date.IsValid) :
    bucket.epochDay = .ok date.epochDay := by
  have number : bucket.yearNumber = date.year := by
    unfold Bucket.yearNumber
    rw [holds.year]
  have monthRead : bucket.hasMonthOrDay = true := by
    rw [hasMonthOrDay, holds.monthOfYear]
    rfl
  unfold Bucket.epochDay
  simp only [monthRead, if_true]
  apply dayOfCalendarDate_eq valid (year_eq_of_yearNumber valid number)
  · rw [holds.monthOfYear, Option.getD_some]
  · rw [holds.dayOfMonth, Option.getD_some]

theorem HoldsDate.toLocal {date : Date} (holds : bucket.HoldsDate date) (valid : date.IsValid)
    (weekday : ∀ day ∈ bucket.fields .dayOfWeek, day = dayOfWeek date.epochDay)
    (time : bucket.timeOfDay.IsValid) : bucket.toLocal = .ok ⟨date, bucket.timeOfDay⟩ :=
  toLocal_of_epochDay valid (holds.epochDay valid) weekday time

/-- With hours of the whole day alone, the time is made of the hour, the minute, the second and the
nanosecond, each zero where it was not read. -/
theorem timeOfDay_eq (clockHour : bucket.fields .clockHourOfDay = none)
    (halfDay : bucket.fields .halfDayOfDay = none)
    (hourOfHalfDay : bucket.fields .hourOfHalfDay = none)
    (clockHourOfHalfDay : bucket.fields .clockHourOfHalfDay = none)
    (millisOfSecond : bucket.fields .millisOfSecond = none)
    (millisOfDay : bucket.fields .millisOfDay = none) :
    bucket.timeOfDay =
      { hour := narrowed 8 ((bucket.fields .hourOfDay).getD 0)
        minute := narrowed 8 ((bucket.fields .minuteOfHour).getD 0)
        second := narrowed 8 ((bucket.fields .secondOfMinute).getD 0)
        nanosecond := narrowed 32 ((bucket.fields .nanoOfSecond).getD 0) } := by
  have hour : bucket.hour = (bucket.fields .hourOfDay).getD 0 := by
    unfold Bucket.hour
    rw [clockHour, halfDay, hourOfHalfDay, clockHourOfHalfDay]
    cases bucket.fields .hourOfDay <;> rfl
  have nanosecond : bucket.nanosecond = (bucket.fields .nanoOfSecond).getD 0 := by
    unfold Bucket.nanosecond
    rw [millisOfSecond]
    cases bucket.fields .nanoOfSecond <;> rfl
  simp only [timeOfDay, hour, nanosecond, millisOfDay, ite_self]

/-! ## Periods -/

def filled (bucket : Bucket) (period : Period) (field : PeriodField) : Period :=
  match bucket.periodFields field with
  | some value => period.set field value
  | none => period

@[simp] theorem type_filled (bucket : Bucket) (period : Period) (field : PeriodField) :
    (bucket.filled period field).type = period.type := by
  unfold filled
  split
  · exact period.type_set field _
  · rfl

theorem get_filled (bucket : Bucket) (period : Period) (field other : PeriodField) :
    (bucket.filled period field).get other =
      if other = field then (bucket.periodFields field).getD (period.get other)
      else period.get other := by
  unfold filled
  by_cases same : other = field
  · subst same
    rw [if_pos rfl]
    split
    · next read => rw [read, Period.get_set_self, Option.getD_some]
    · next unread => rw [unread, Option.getD_none]
  · rw [if_neg same]
    split
    · exact period.get_set_of_ne same _
    · rfl

theorem putUnit_eq_ok_iff {period result : Period} {field : PeriodField} :
    bucket.putUnit period field = .ok result ↔
      (∀ value ∈ bucket.periodFields field, value ≠ 0 → period.type.supports field = true) ∧
        bucket.filled period field = result := by
  unfold putUnit filled Period.withField
  cases read : bucket.periodFields field with
  | none => simp [pure, Except.pure]
  | some value =>
      by_cases refused : value ≠ 0 ∧ period.type.supports field = false
      · simp [refused, throw, throwThe, MonadExceptOf.throw]
      · have supported : value ≠ 0 → period.type.supports field = true := by
          intro other
          by_contra unsupported
          exact refused ⟨other, Bool.not_eq_true _ ▸ unsupported⟩
        simp only [refused, if_false, pure, Except.pure, Except.ok.injEq, Option.mem_def,
          Option.some.injEq, forall_eq']
        exact ⟨fun same => ⟨supported, same⟩, And.right⟩

theorem foldlM_putUnit_eq_ok_iff {period result : Period} {fields : List PeriodField} :
    fields.foldlM bucket.putUnit period = .ok result ↔
      (∀ field ∈ fields, ∀ value ∈ bucket.periodFields field, value ≠ 0 →
        period.type.supports field = true) ∧ fields.foldl bucket.filled period = result := by
  induction fields generalizing period with
  | nil => simp [pure, Except.pure]
  | cons field fields ih =>
      rw [List.foldlM_cons, List.foldl_cons, List.forall_mem_cons]
      constructor
      · intro put
        cases first : bucket.putUnit period field with
        | error failure =>
            rw [first] at put
            cases put
        | ok next =>
            rw [first] at put
            obtain ⟨supported, rfl⟩ := putUnit_eq_ok_iff.mp first
            obtain ⟨others, same⟩ := ih.mp put
            rw [type_filled] at others
            exact ⟨⟨supported, others⟩, same⟩
      · rintro ⟨⟨supported, others⟩, same⟩
        rw [putUnit_eq_ok_iff.mpr ⟨supported, rfl⟩]
        refine ih.mpr ⟨?_, same⟩
        rwa [type_filled]

theorem get_foldl_filled (bucket : Bucket) (period : Period) (fields : List PeriodField)
    (field : PeriodField) :
    (fields.foldl bucket.filled period).get field =
      if field ∈ fields then (bucket.periodFields field).getD (period.get field)
      else period.get field := by
  induction fields generalizing period with
  | nil => simp
  | cons first others ih =>
      rw [List.foldl_cons, ih, get_filled]
      by_cases same : field = first
      · subst same
        cases bucket.periodFields field <;> simp
      · simp [same]

theorem type_foldl_filled (bucket : Bucket) (period : Period) (fields : List PeriodField) :
    (fields.foldl bucket.filled period).type = period.type := by
  induction fields generalizing period with
  | nil => rfl
  | cons first others ih => rw [List.foldl_cons, ih, type_filled]

/-- The period of a type that a bucket makes has the units that were read, and all others zero. It
exists if the type knows the units that are not zero. -/
theorem toPeriod_eq_ok_iff {type : PeriodType} {period : Period} :
    bucket.toPeriod type = .ok period ↔
      period.type = type ∧ (∀ field, period.get field = (bucket.periodFields field).getD 0) ∧
        ∀ field, period.get field ≠ 0 → type.supports field = true := by
  have amounts (field : PeriodField) :
      (PeriodField.all.foldl bucket.filled (.zeroOf type)).get field =
        (bucket.periodFields field).getD 0 := by
    rw [get_foldl_filled, if_pos (PeriodField.mem_all field), Period.get_zeroOf]
  have made : (PeriodField.all.foldl bucket.filled (.zeroOf type)).type = type :=
    type_foldl_filled bucket _ _
  unfold toPeriod
  rw [foldlM_putUnit_eq_ok_iff]
  constructor
  · rintro ⟨supported, rfl⟩
    refine ⟨made, amounts, fun field other => ?_⟩
    rw [amounts] at other
    cases read : bucket.periodFields field with
    | none =>
        rw [read] at other
        exact absurd rfl other
    | some value =>
        rw [read] at other
        exact supported field (PeriodField.mem_all field) value read other
  · rintro ⟨rfl, held, supported⟩
    constructor
    · intro field _ value read other
      apply supported
      rw [held, Option.mem_def.mp read]
      exact other
    · exact Period.ext_get (fun field => (amounts field).trans (held field).symm) made

end Bucket

end ChronoText
