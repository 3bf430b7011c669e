import ChronoText.Proofs.Parsing.StatedComponents

/-! Resolution in machine words. Each step of a resolution is taken in a word of a fixed width and
has no result where the word cannot hold it. For components in their ranges every step has a result,
so that the resolution that cuts its values down to the same words loses nothing, and the date-time
it makes is the one that the components state. -/

set_option autoImplicit false

namespace ChronoText

open Gregorian
open Gregorian.Word (signed32 signed64 unsigned8 unsigned32 hold?_signed32 hold?_signed64
  hold?_unsigned8 hold?_unsigned32)

/-! ## Weeks -/

namespace Gregorian

def dayOfWeekInWords (day : Int) : Option Int := do
  let shifted ← signed32.hold? (day + 3)
  let number ← signed32.hold? (shifted % 7 + 1)
  unsigned8.hold? number

def weeksInYearInWords (weekYear : Int) : Option Int := do
  let first ← epochDayInWords weekYear 1 1
  let weekday ← dayOfWeekInWords first
  pure (if weekday = 4 ∨ (weekday = 3 ∧ isLeapYear weekYear) then 53 else 52)

def weekYearStartInWords (weekYear : Int) : Option Int := do
  let fourth ← epochDayInWords weekYear 1 4
  let weekday ← dayOfWeekInWords fourth
  let before ← signed32.hold? (weekday - 1)
  signed32.hold? (fourth - before)

theorem Date.IsValid.dayOfWeekInWords_eq {date : Date} (valid : date.IsValid) :
    dayOfWeekInWords date.epochDay = some (dayOfWeek date.epochDay) := by
  obtain ⟨above, below⟩ := valid.epochDay_bounds
  unfold dayOfWeekInWords
  rw [hold?_signed32 (by omega) (by omega), Option.bind_eq_bind, Option.bind_some,
    hold?_signed32 (by omega) (by omega), Option.bind_some]
  exact hold?_unsigned8 (by omega) (by omega)

variable {weekYear : Int} (yearGe : minYear ≤ weekYear) (yearLe : weekYear ≤ maxYear)

include yearGe yearLe

theorem weeksInYearInWords_eq : weeksInYearInWords weekYear = some (weeksInYear weekYear) := by
  have first : Date.IsValid ⟨weekYear, 1, 1⟩ :=
    january_isValid yearGe yearLe (by decide) (by decide)
  have day : epochDayInWords weekYear 1 1 = some (Date.epochDay ⟨weekYear, 1, 1⟩) :=
    first.epochDayInWords_eq
  unfold weeksInYearInWords
  rw [day, Option.bind_eq_bind, Option.bind_some, first.dayOfWeekInWords_eq, Option.bind_some]
  rfl

theorem weekYearStartInWords_eq :
    weekYearStartInWords weekYear = some (weekYearStart weekYear) := by
  have fourth : Date.IsValid ⟨weekYear, 1, 4⟩ :=
    january_isValid yearGe yearLe (by decide) (by decide)
  have day : epochDayInWords weekYear 1 4 = some (Date.epochDay ⟨weekYear, 1, 4⟩) :=
    fourth.epochDayInWords_eq
  obtain ⟨above, below⟩ := fourth.epochDay_bounds
  have weekday := dayOfWeek_bounds (Date.epochDay ⟨weekYear, 1, 4⟩)
  unfold weekYearStartInWords
  rw [day, Option.bind_eq_bind, Option.bind_some, fourth.dayOfWeekInWords_eq, Option.bind_some,
    hold?_signed32 (by omega) (by omega), Option.bind_some]
  exact hold?_signed32 (by omega) (by omega)

end Gregorian

/-! ## Resolution -/

/-- A computation in machine words that can fail. It has no result, and no failure either, where a
word cannot hold one of its steps. -/
abbrev InWords (α : Type) := ExceptT Failure Option α

namespace InWords

variable {α β : Type}

def ofResult (result : Except Failure α) : InWords α :=
  ExceptT.mk (some result)

theorem bind_held {step : Option α} {value : α} {later : α → InWords β} {final : InWords β}
    (held : step = some value) (next : later value = final) :
    ((liftM step : InWords α) >>= later) = final := by
  rw [held]
  exact next

theorem ofResult_bind {result : Except Failure α} {later : α → InWords β}
    {next : α → Except Failure β}
    (each : ∀ value, result = .ok value → later value = ofResult (next value)) :
    (ofResult result >>= later) = ofResult (result >>= next) := by
  cases result with
  | error failure => rfl
  | ok value => exact each value rfl

end InWords

namespace Bucket

open InWords (ofResult bind_held ofResult_bind)

def checkedYearInWords (field : DateTimeField) (year : Int) : InWords Int :=
  if minYear ≤ year ∧ year ≤ maxYear then signed32.hold? year
  else throw (outOfRange year field)

def yearNumberInWords (bucket : Bucket) : Option Int :=
  let inEra (yearOfEra : Int) : Option Int :=
    if bucket.fields .era = some 0 then signed64.hold? (1 - yearOfEra) else some yearOfEra
  match bucket.fields .year, bucket.fields .yearOfEra, bucket.fields .centuryOfEra with
  | some year, _, _ => some year
  | none, some yearOfEra, _ => inEra yearOfEra
  | none, none, some century => signed64.hold? (century * 100) >>= inEra
  | none, none, none => some 1970

def yearInWords (bucket : Bucket) : InWords Int := do
  let number ← bucket.yearNumberInWords
  checkedYearInWords .year number

def weekYearInWords (bucket : Bucket) : InWords Int :=
  match bucket.fields .weekYear with
  | some weekYear => checkedYearInWords .weekYear weekYear
  | none => bucket.yearInWords

def dayOfWeekDateInWords (bucket : Bucket) : InWords Int := do
  let weekYear ← bucket.weekYearInWords
  let week := (bucket.fields .weekOfWeekYear).getD 1
  let weeks ← weeksInYearInWords weekYear
  if weeks < week then
    throw (outOfRange week .weekOfWeekYear)
  else do
    let start ← weekYearStartInWords weekYear
    let weeksBefore ← signed64.hold? (week - 1)
    let daysBefore ← signed64.hold? (weeksBefore * 7)
    let monday ← signed64.hold? (start + daysBefore)
    let dayAfter ← signed64.hold? (monday + (bucket.fields .dayOfWeek).getD 1)
    let day ← signed64.hold? (dayAfter - 1)
    signed32.hold? day

def dayOfOrdinalDateInWords (bucket : Bucket) (dayOfYear : Int) : InWords Int := do
  let year ← bucket.yearInWords
  if (daysInYear year : Int) < dayOfYear then
    throw (outOfRange dayOfYear .dayOfYear)
  else do
    let first ← Gregorian.epochDayInWords year 1 1
    let number ← signed32.hold? dayOfYear
    let dayAfter ← signed32.hold? (first + number)
    signed32.hold? (dayAfter - 1)

def dayOfCalendarDateInWords (bucket : Bucket) : InWords Int := do
  let year ← bucket.yearInWords
  let month ← unsigned8.hold? ((bucket.fields .monthOfYear).getD 1)
  let day := (bucket.fields .dayOfMonth).getD 1
  if (daysInMonth year month.toNat : Int) < day then
    throw (outOfRange day .dayOfMonth)
  else do
    let dayOfMonth ← unsigned8.hold? day
    Gregorian.epochDayInWords year month.toNat dayOfMonth.toNat

def epochDayInWords (bucket : Bucket) : InWords Int :=
  if bucket.hasMonthOrDay then bucket.dayOfCalendarDateInWords
  else if bucket.hasWeek then bucket.dayOfWeekDateInWords
  else
    match bucket.fields .dayOfYear with
    | some dayOfYear => bucket.dayOfOrdinalDateInWords dayOfYear
    | none => bucket.dayOfCalendarDateInWords

def timeOfMillisInWords (millisOfDay : Int) : Option TimeOfDay := do
  let seconds ← signed64.hold? (millisOfDay.tdiv 1000)
  let hour ← unsigned8.hold? (seconds.tdiv 3600)
  let minute ← unsigned8.hold? ((seconds.tdiv 60).tmod 60)
  let second ← unsigned8.hold? (seconds.tmod 60)
  let millis ← unsigned32.hold? (millisOfDay.tmod 1000)
  let nanosecond ← unsigned32.hold? (millis * 1000000)
  pure ⟨hour.toNat, minute.toNat, second.toNat, nanosecond.toNat⟩

def hourInWords (bucket : Bucket) : Option Int :=
  match bucket.fields .hourOfDay, bucket.fields .clockHourOfDay with
  | some hour, _ => some hour
  | none, some clockHour => some (clockHour.tmod 24)
  | none, none => do
    let hoursBefore ← signed64.hold? ((bucket.fields .halfDayOfDay).getD 0 * 12)
    signed64.hold? (hoursBefore + bucket.hourOfHalfDay)

def nanosecondInWords (bucket : Bucket) : Option Int :=
  match bucket.fields .nanoOfSecond, bucket.fields .millisOfSecond with
  | some nanosecond, _ => some nanosecond
  | none, some millis => signed64.hold? (millis * 1000000)
  | none, none => some 0

def clockTimeInWords (bucket : Bucket) : Option TimeOfDay := do
  let longHour ← bucket.hourInWords
  let longNanosecond ← bucket.nanosecondInWords
  let hour ← unsigned8.hold? longHour
  let minute ← unsigned8.hold? ((bucket.fields .minuteOfHour).getD 0)
  let second ← unsigned8.hold? ((bucket.fields .secondOfMinute).getD 0)
  let nanosecond ← unsigned32.hold? longNanosecond
  pure ⟨hour.toNat, minute.toNat, second.toNat, nanosecond.toNat⟩

def timeOfDayInWords (bucket : Bucket) : Option TimeOfDay :=
  if bucket.hasClock then bucket.clockTimeInWords
  else
    match bucket.fields .millisOfDay with
    | some millisOfDay => timeOfMillisInWords millisOfDay
    | none => bucket.clockTimeInWords

/-- A day of the week that was read has to be that of the day. -/
def checkedDayOfWeekInWords (bucket : Bucket) (day : Int) : InWords Unit :=
  match bucket.fields .dayOfWeek with
  | some weekday => do
    let found ← dayOfWeekInWords day
    if found ≠ weekday then throw (outOfRange weekday .dayOfWeek)
  | none => pure ()

def toLocalInWords (bucket : Bucket) : InWords LocalDateTime := do
  let day ← bucket.epochDayInWords
  let date ← dateInWords day
  bucket.checkedDayOfWeekInWords day
  let time ← bucket.timeOfDayInWords
  match LocalDateTime.ofParts date time with
  | .ok value => pure value
  | .error _ => throw { kind := .noSuchValue, params := [.text "LocalDateTime"] }

variable {bucket : Bucket}

/-! ## No step leaves its word -/

theorem checkedYearInWords_eq (field : DateTimeField) (year : Int) :
    checkedYearInWords field year = ofResult (checkedYear field year) := by
  unfold checkedYearInWords checkedYear
  split
  · next supported =>
      obtain ⟨yearGe, yearLe⟩ := supported
      unfold minYear at yearGe
      unfold maxYear at yearLe
      rw [hold?_signed32 (by omega) (by omega)]
      rfl
  · rfl

theorem yearNumberInWords_eq (inRange : bucket.InRange) :
    bucket.yearNumberInWords = some bucket.yearNumber := by
  rw [yearNumber_eq inRange]
  have kept (yearOfEra : Int) (low : 0 ≤ yearOfEra) (high : yearOfEra ≤ 999999) :
      (if bucket.fields .era = some 0 then signed64.hold? (1 - yearOfEra) else some yearOfEra) =
        some (if bucket.fields .era = some 0 then 1 - yearOfEra else yearOfEra) := by
    split
    · exact hold?_signed64 (by omega) (by omega)
    · rfl
  unfold yearNumberInWords statedYear
  cases bucket.fields .year with
  | some year => rfl
  | none =>
      cases readYear : bucket.fields .yearOfEra with
      | some yearOfEra =>
          have bounds := inRange.bounds readYear rfl
          exact kept yearOfEra (by omega) (by omega)
      | none =>
          cases readCentury : bucket.fields .centuryOfEra with
          | some century =>
              have bounds := inRange.bounds readCentury rfl
              simp only [hold?_signed64 (show -0x8000000000000000 ≤ century * 100 by omega)
                (by omega), Option.bind_eq_bind, Option.bind_some]
              exact kept (century * 100) (by omega) (by omega)
          | none => rfl

theorem yearInWords_eq (inRange : bucket.InRange) : bucket.yearInWords = ofResult bucket.year :=
  bind_held (yearNumberInWords_eq inRange) (checkedYearInWords_eq .year bucket.yearNumber)

theorem weekYearInWords_eq (inRange : bucket.InRange) :
    bucket.weekYearInWords = ofResult bucket.weekYear := by
  unfold weekYearInWords weekYear
  cases bucket.fields .weekYear with
  | some weekYear => exact checkedYearInWords_eq .weekYear weekYear
  | none => exact yearInWords_eq inRange

theorem dayOfWeekDateInWords_eq (inRange : bucket.InRange) :
    bucket.dayOfWeekDateInWords = ofResult bucket.dayOfWeekDate := by
  obtain ⟨weekGe, weekLe⟩ := inRange.getD_bounds .weekOfWeekYear 1 rfl (by decide) (by decide)
  obtain ⟨weekdayGe, weekdayLe⟩ := inRange.getD_bounds .dayOfWeek 1 rfl (by decide) (by decide)
  rw [dayOfWeekDate_eq_bind, dayOfWeekDateInWords, weekYearInWords_eq inRange]
  apply ofResult_bind
  intro weekYear found
  obtain ⟨_, yearGe, yearLe⟩ := (weekYear_eq_ok_iff inRange).mp found
  refine bind_held (weeksInYearInWords_eq yearGe yearLe) ?_
  unfold dayInWeekYear
  generalize (bucket.fields .weekOfWeekYear).getD 1 = week at *
  generalize (bucket.fields .dayOfWeek).getD 1 = weekday at *
  simp only []
  split
  · rfl
  · next inYear =>
      obtain ⟨date, valid, _, _, day⟩ :=
        exists_weekDate yearGe yearLe weekGe (Int.not_lt.mp inYear) weekdayGe weekdayLe
      obtain ⟨above, below⟩ := valid.epochDay_bounds
      refine bind_held (weekYearStartInWords_eq yearGe yearLe) ?_
      refine bind_held (hold?_signed64 (by omega) (by omega)) ?_
      refine bind_held (hold?_signed64 (by omega) (by omega)) ?_
      refine bind_held (hold?_signed64 (by omega) (by omega)) ?_
      refine bind_held (hold?_signed64 (by omega) (by omega)) ?_
      refine bind_held (hold?_signed64 (by omega) (by omega)) ?_
      rw [← day, wrapped_epochDay valid, hold?_signed32 (by omega) (by omega)]
      rfl

theorem dayOfOrdinalDateInWords_eq (inRange : bucket.InRange) {number : Int}
    (read : bucket.fields .dayOfYear = some number) :
    bucket.dayOfOrdinalDateInWords number = ofResult (bucket.dayOfOrdinalDate number) := by
  obtain ⟨numberGe, numberLe⟩ := inRange.bounds read rfl
  rw [dayOfOrdinalDateInWords, yearInWords_eq inRange]
  apply ofResult_bind
  intro year found
  obtain ⟨_, yearGe, yearLe⟩ := (year_eq_ok_iff inRange).mp found
  split
  · rfl
  · next inYear =>
      have first : Date.IsValid ⟨year, 1, 1⟩ :=
        january_isValid yearGe yearLe (by decide) (by decide)
      have firstDay : Gregorian.epochDayInWords year 1 1 = some (Gregorian.epochDay year 1 1) :=
        first.epochDayInWords_eq
      obtain ⟨date, valid, _, _, day⟩ :=
        exists_dayOfYear yearGe yearLe numberGe (Int.not_lt.mp inYear)
      obtain ⟨above, below⟩ := valid.epochDay_bounds
      refine bind_held firstDay ?_
      refine bind_held (hold?_signed32 (by omega) (by omega)) ?_
      refine bind_held (hold?_signed32 (by omega) (by omega)) ?_
      rw [← day, wrapped_epochDay valid, hold?_signed32 (by omega) (by omega)]
      rfl

theorem narrowed_eq_toNat {bits : Nat} {value : Int} (low : 0 ≤ value) (high : value < 2 ^ bits) :
    narrowed bits value = value.toNat := by
  have kept := natCast_narrowed low high
  omega

theorem dayOfCalendarDateInWords_eq (inRange : bucket.InRange) :
    bucket.dayOfCalendarDateInWords = ofResult bucket.dayOfCalendarDate := by
  obtain ⟨monthGe, monthLe⟩ := inRange.getD_bounds .monthOfYear 1 rfl (by decide) (by decide)
  obtain ⟨dayGe, dayLe⟩ := inRange.getD_bounds .dayOfMonth 1 rfl (by decide) (by decide)
  rw [dayOfCalendarDateInWords, yearInWords_eq inRange]
  apply ofResult_bind
  intro year found
  obtain ⟨_, yearGe, yearLe⟩ := (year_eq_ok_iff inRange).mp found
  generalize (bucket.fields .monthOfYear).getD 1 = month at *
  generalize (bucket.fields .dayOfMonth).getD 1 = day at *
  refine bind_held (hold?_unsigned8 (by omega) (by omega)) ?_
  have monthKept : narrowed 8 month = month.toNat := narrowed_eq_toNat (by omega) (by omega)
  have dayKept : narrowed 8 day = day.toNat := narrowed_eq_toNat (by omega) (by omega)
  simp only [monthKept, dayKept]
  split
  · rfl
  · next inMonth =>
      have valid : Date.IsValid ⟨year, month.toNat, day.toNat⟩ :=
        ⟨yearGe, yearLe, show 1 ≤ month.toNat by omega, show month.toNat ≤ 12 by omega,
          show 1 ≤ day.toNat by omega, show day.toNat ≤ daysInMonth year month.toNat by omega⟩
      refine bind_held (hold?_unsigned8 (by omega) (by omega)) ?_
      rw [valid.epochDayInWords_eq]
      rfl

theorem epochDayInWords_eq (inRange : bucket.InRange) :
    bucket.epochDayInWords = ofResult bucket.epochDay := by
  unfold epochDayInWords Bucket.epochDay hasWeek
  simp only []
  split
  · exact dayOfCalendarDateInWords_eq inRange
  · split
    · exact dayOfWeekDateInWords_eq inRange
    · cases read : bucket.fields .dayOfYear with
      | some number => exact dayOfOrdinalDateInWords_eq inRange read
      | none => exact dayOfCalendarDateInWords_eq inRange

theorem timeOfMillisInWords_eq {millisOfDay : Int} (millisGe : 0 ≤ millisOfDay)
    (millisLe : millisOfDay ≤ 86399999) :
    timeOfMillisInWords millisOfDay = some (timeOfMillis millisOfDay) := by
  obtain ⟨millis, rfl⟩ := Int.eq_ofNat_of_zero_le millisGe
  have short := Int.ofNat_le.mp millisLe
  rw [timeOfMillis_natCast short]
  have seconds : (millis : Int).tdiv 1000 = (millis / 1000 : Nat) := rfl
  have hours : ((millis / 1000 : Nat) : Int).tdiv 3600 = (millis / 1000 / 3600 : Nat) := rfl
  have minutes : (((millis / 1000 : Nat) : Int).tdiv 60).tmod 60 = (millis / 1000 / 60 % 60 : Nat) :=
    rfl
  have rest : ((millis / 1000 : Nat) : Int).tmod 60 = (millis / 1000 % 60 : Nat) := rfl
  have millisOfSecond : (millis : Int).tmod 1000 = (millis % 1000 : Nat) := rfl
  have fraction : ((millis % 1000 : Nat) : Int) * 1000000 = (millis % 1000 * 1000000 : Nat) :=
    (Int.natCast_mul _ 1000000).symm
  unfold timeOfMillisInWords
  rw [seconds, hold?_signed64 (by omega) (by omega), Option.bind_eq_bind, Option.bind_some, hours,
    hold?_unsigned8 (by omega) (by omega), Option.bind_some, minutes,
    hold?_unsigned8 (by omega) (by omega), Option.bind_some, rest,
    hold?_unsigned8 (by omega) (by omega), Option.bind_some, millisOfSecond,
    hold?_unsigned32 (by omega) (by omega), Option.bind_some, fraction,
    hold?_unsigned32 (by omega) (by omega), Option.bind_some]
  rfl

theorem hourInWords_eq (inRange : bucket.InRange) :
    bucket.hourInWords = some bucket.hour := by
  obtain ⟨halfDayGe, halfDayLe⟩ := inRange.getD_bounds .halfDayOfDay 0 rfl (by decide) (by decide)
  have hour := statedHourOfHalfDay_bounds inRange
  rw [← hourOfHalfDay_eq inRange] at hour
  rw [hour_eq_match, hourInWords]
  cases bucket.fields .hourOfDay with
  | some hour => rfl
  | none =>
      cases bucket.fields .clockHourOfDay with
      | some clockHour => rfl
      | none =>
          simp only [hold?_signed64
            (show -0x8000000000000000 ≤ (bucket.fields .halfDayOfDay).getD 0 * 12 by omega)
            (by omega), Option.bind_eq_bind, Option.bind_some]
          exact hold?_signed64 (by omega) (by omega)

theorem nanosecondInWords_eq (inRange : bucket.InRange) :
    bucket.nanosecondInWords = some bucket.nanosecond := by
  unfold nanosecondInWords Bucket.nanosecond
  cases bucket.fields .nanoOfSecond with
  | some nanosecond => rfl
  | none =>
      cases read : bucket.fields .millisOfSecond with
      | some millis =>
          have bounds := inRange.bounds read rfl
          exact hold?_signed64 (by omega) (by omega)
      | none => rfl

theorem clockTimeInWords_eq (inRange : bucket.InRange) :
    bucket.clockTimeInWords = some bucket.clockTime := by
  obtain ⟨minuteGe, minuteLe⟩ := inRange.getD_bounds .minuteOfHour 0 rfl (by decide) (by decide)
  obtain ⟨secondGe, secondLe⟩ := inRange.getD_bounds .secondOfMinute 0 rfl (by decide) (by decide)
  obtain ⟨hourGe, hourLe⟩ := statedHour_bounds inRange
  obtain ⟨nanosecondGe, nanosecondLe⟩ := statedNanosecond_bounds inRange
  rw [← hour_eq inRange] at hourGe hourLe
  rw [← nanosecond_eq] at nanosecondGe nanosecondLe
  unfold clockTimeInWords clockTime
  rw [hourInWords_eq inRange, nanosecondInWords_eq inRange, narrowed_eq_toNat hourGe (by omega),
    narrowed_eq_toNat minuteGe (by omega), narrowed_eq_toNat secondGe (by omega),
    narrowed_eq_toNat nanosecondGe (by omega), Option.bind_eq_bind, Option.bind_some,
    Option.bind_some, hold?_unsigned8 hourGe (by omega), Option.bind_some,
    hold?_unsigned8 minuteGe (by omega), Option.bind_some,
    hold?_unsigned8 secondGe (by omega), Option.bind_some,
    hold?_unsigned32 nanosecondGe (by omega), Option.bind_some]
  rfl

theorem timeOfDayInWords_eq (inRange : bucket.InRange) :
    bucket.timeOfDayInWords = some bucket.timeOfDay := by
  rw [timeOfDay_eq_match, timeOfDayInWords]
  split
  · exact clockTimeInWords_eq inRange
  · cases read : bucket.fields .millisOfDay with
    | some millisOfDay =>
        have bounds := inRange.bounds read rfl
        exact timeOfMillisInWords_eq bounds.1 bounds.2
    | none => exact clockTimeInWords_eq inRange

theorem checkedDayOfWeekInWords_agreeing {date : Date} (valid : date.IsValid)
    (agree : ∀ weekday ∈ bucket.fields .dayOfWeek, weekday = dayOfWeek date.epochDay) :
    bucket.checkedDayOfWeekInWords date.epochDay = pure () := by
  unfold checkedDayOfWeekInWords
  cases read : bucket.fields .dayOfWeek with
  | none => rfl
  | some weekday =>
      refine bind_held valid.dayOfWeekInWords_eq ?_
      exact if_neg (not_not_intro (agree weekday read).symm)

theorem checkedDayOfWeekInWords_other {date : Date} (valid : date.IsValid) {weekday : Int}
    (read : bucket.fields .dayOfWeek = some weekday) (other : dayOfWeek date.epochDay ≠ weekday) :
    bucket.checkedDayOfWeekInWords date.epochDay = throw (outOfRange weekday .dayOfWeek) := by
  unfold checkedDayOfWeekInWords
  rw [read]
  refine bind_held valid.dayOfWeekInWords_eq ?_
  exact if_pos other

/-- In machine words a resolution has the same outcome, whether it succeeds or fails. -/
theorem toLocalInWords_eq (inRange : bucket.InRange) :
    bucket.toLocalInWords = ofResult bucket.toLocal := by
  rw [toLocalInWords, epochDayInWords_eq inRange]
  cases found : bucket.epochDay with
  | error failure =>
      unfold Bucket.toLocal
      rw [found]
      rfl
  | ok day =>
      obtain ⟨date, valid, _, rfl⟩ := (epochDay_eq_ok_iff inRange).mp found
      have timeValid := (timeOfDay_states inRange).1
      refine bind_held valid.dateInWords_eq ?_
      by_cases agree : ∀ weekday ∈ bucket.fields .dayOfWeek, weekday = dayOfWeek date.epochDay
      · rw [checkedDayOfWeekInWords_agreeing valid agree,
          toLocal_of_epochDay valid found agree timeValid, pure_bind]
        refine bind_held (timeOfDayInWords_eq inRange) ?_
        rw [LocalDateTime.ofParts_of_valid valid timeValid]
        rfl
      · push Not at agree
        obtain ⟨weekday, read, other⟩ := agree
        rw [checkedDayOfWeekInWords_other valid read other.symm,
          toLocal_of_other_weekday valid found read other.symm]
        rfl

/-- For components in their ranges no step of a resolution leaves its word, and a date-time is made
just if the components state it. -/
theorem resolution_exact (inRange : bucket.InRange) :
    bucket.toLocalInWords = ofResult bucket.toLocal ∧
      ∀ value, bucket.toLocal = .ok value ↔ value.IsValid ∧ bucket.States value :=
  ⟨toLocalInWords_eq inRange, fun _ => toLocal_eq_ok_iff inRange⟩

/-- The last day of a year of 53 weeks, at midnight on a clock that goes from one to twelve.
Milliseconds of the day do not count beside a clock. -/
def lastSunday : Bucket :=
  ((((empty.setField .weekYear (-271816)).setField .weekOfWeekYear 53).setField
    .dayOfWeek 7).setField .clockHourOfHalfDay 12).setField .millisOfDay 999

theorem resolution_exact_lastSunday :
    lastSunday.InRange ∧ lastSunday.toLocal = .ok ⟨⟨-271815, 1, 2⟩, .midnight⟩ ∧
      lastSunday.toLocalInWords = ofResult (.ok ⟨⟨-271815, 1, 2⟩, .midnight⟩) ∧
      LocalDateTime.IsValid ⟨⟨-271815, 1, 2⟩, .midnight⟩ ∧
      lastSunday.States ⟨⟨-271815, 1, 2⟩, .midnight⟩ := by
  have inRange : lastSunday.InRange :=
    ((((inRange_empty.setField rfl).setField rfl).setField rfl).setField rfl).setField rfl
  have made : lastSunday.toLocal = .ok ⟨⟨-271815, 1, 2⟩, .midnight⟩ := by decide +kernel
  obtain ⟨inWords, stated⟩ := resolution_exact inRange
  rw [made] at inWords
  obtain ⟨valid, states⟩ := (stated _).mp made
  exact ⟨inRange, made, inWords, valid, states⟩

end Bucket

end ChronoText
