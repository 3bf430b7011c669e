import ChronoText.Proofs.Parsing.StatedComponents

/-! Resolution of components that no date-time has. Few of them are refused: the months, the days of
the month and the numbers of the clock are cut to the words that hold them, and days before the
first are counted back. A bucket makes a date-time just if what is left after that is one. -/

set_option autoImplicit false

namespace ChronoText

namespace Bucket

open Gregorian

variable {bucket : Bucket}

/-! ## What is left of the components -/

def monthByte (bucket : Bucket) : Nat :=
  ((bucket.fields .monthOfYear).getD 1 % 256).toNat

/-- The day of the month is compared with the length of the month before it is cut to a byte. -/
structure CountsInMonth (bucket : Bucket) (year day : Int) : Prop where
  supported : bucket.year = .ok year
  inMonth : (bucket.fields .dayOfMonth).getD 1 ≤ daysInMonth year bucket.monthByte
  counted : day =
    Gregorian.epochDay year bucket.monthByte 1 + (bucket.fields .dayOfMonth).getD 1 % 256 - 1

structure CountsInYear (bucket : Bucket) (number year day : Int) : Prop where
  supported : bucket.year = .ok year
  inYear : number ≤ daysInYear year
  counted : day = wrapped 32 (Gregorian.epochDay year 1 1 + number - 1)

/-- The components of the date count to a day, with months that the calendar does not have, and from
a day before the first back. -/
def CountsTo (bucket : Bucket) (day : Int) : Prop :=
  if bucket.hasMonthOrDay then ∃ year, bucket.CountsInMonth year day
  else if bucket.hasWeek then bucket.dayOfWeekDate = .ok day
  else
    match bucket.fields .dayOfYear with
    | some number => ∃ year, bucket.CountsInYear number year day
    | none => ∃ year, bucket.CountsInMonth year day

structure LeavesClock (bucket : Bucket) (time : TimeOfDay) : Prop where
  hour : time.hour = bucket.hour % 256
  minute : time.minute = (bucket.fields .minuteOfHour).getD 0 % 256
  second : time.second = (bucket.fields .secondOfMinute).getD 0 % 256
  nanosecond : time.nanosecond = bucket.nanosecond % 4294967296

def LeavesTime (bucket : Bucket) (time : TimeOfDay) : Prop :=
  match bucket.hasClock, bucket.fields .millisOfDay with
  | false, some millisOfDay => time = timeOfMillis millisOfDay
  | _, _ => bucket.LeavesClock time

/-- A date-time is what is left of the components. Its day is the one that they count to in a word
of 30 bits. -/
structure Leaves (bucket : Bucket) (value : LocalDateTime) : Prop where
  date : ∃ day, bucket.CountsTo day ∧ (value.epochDay - day) % 2 ^ 30 = 0 ∧
    ∀ weekday ∈ bucket.fields .dayOfWeek, weekday = dayOfWeekOf day
  time : bucket.LeavesTime value.time

theorem dayOfCalendarDate_eq_ok_iff_counts {day : Int} :
    bucket.dayOfCalendarDate = .ok day ↔ ∃ year, bucket.CountsInMonth year day := by
  have month : narrowed 8 ((bucket.fields .monthOfYear).getD 1) = bucket.monthByte := by
    rw [monthByte, ← Int.toNat_natCast (narrowed _ _), natCast_narrowed_eq]
    rfl
  have counted (year : Int) :
      Gregorian.epochDay year bucket.monthByte (narrowed 8 ((bucket.fields .dayOfMonth).getD 1)) =
        Gregorian.epochDay year bucket.monthByte 1 + (bucket.fields .dayOfMonth).getD 1 % 256
          - 1 := by
    rw [epochDay_day, natCast_narrowed_eq]
    rfl
  unfold dayOfCalendarDate
  rw [month]
  constructor
  · intro made
    obtain ⟨year, supported, made⟩ := bind_ok made
    dsimp only at made
    split at made
    · cases made
    · next inMonth =>
        cases made
        exact ⟨year, supported, Int.not_lt.mp inMonth, counted year⟩
  · rintro ⟨year, supported, inMonth, rfl⟩
    rw [supported, ← counted]
    show (if _ then _ else _) = _
    rw [if_neg (Int.not_lt.mpr inMonth)]
    rfl

theorem dayOfOrdinalDate_eq_ok_iff_counts {number day : Int} :
    bucket.dayOfOrdinalDate number = .ok day ↔ ∃ year, bucket.CountsInYear number year day := by
  unfold dayOfOrdinalDate
  constructor
  · intro made
    obtain ⟨year, supported, made⟩ := bind_ok made
    split at made
    · cases made
    · next inYear =>
        cases made
        exact ⟨year, supported, Int.not_lt.mp inYear, rfl⟩
  · rintro ⟨year, supported, inYear, rfl⟩
    rw [supported]
    show (if _ then _ else _) = _
    rw [if_neg (Int.not_lt.mpr inYear)]
    rfl

theorem epochDay_eq_ok_iff_counts {day : Int} :
    bucket.epochDay = .ok day ↔ bucket.CountsTo day := by
  unfold Bucket.epochDay CountsTo hasWeek
  cases bucket.hasMonthOrDay with
  | true => exact dayOfCalendarDate_eq_ok_iff_counts
  | false =>
      cases (bucket.fields .weekYear).isSome || (bucket.fields .weekOfWeekYear).isSome with
      | true => exact Iff.rfl
      | false =>
          cases bucket.fields .dayOfYear with
          | some number => exact dayOfOrdinalDate_eq_ok_iff_counts
          | none => exact dayOfCalendarDate_eq_ok_iff_counts

theorem clockTime_eq_iff {time : TimeOfDay} :
    bucket.clockTime = time ↔ bucket.LeavesClock time := by
  have hour := natCast_narrowed_eq 8 bucket.hour
  have minute := natCast_narrowed_eq 8 ((bucket.fields .minuteOfHour).getD 0)
  have second := natCast_narrowed_eq 8 ((bucket.fields .secondOfMinute).getD 0)
  have nanosecond := natCast_narrowed_eq 32 bucket.nanosecond
  constructor
  · rintro rfl
    exact ⟨hour, minute, second, nanosecond⟩
  · rintro ⟨timeHour, timeMinute, timeSecond, timeNanosecond⟩
    obtain ⟨_, _, _, _⟩ := time
    simp only [clockTime, TimeOfDay.mk.injEq]
    dsimp only at *
    omega

theorem timeOfDay_eq_iff {time : TimeOfDay} :
    bucket.timeOfDay = time ↔ bucket.LeavesTime time := by
  rw [timeOfDay_eq_match]
  unfold LeavesTime
  cases bucket.hasClock with
  | true => exact clockTime_eq_iff
  | false =>
      cases bucket.fields .millisOfDay with
      | some millisOfDay => exact eq_comm
      | none => exact clockTime_eq_iff

theorem toLocal_eq_ok_iff_leaves {value : LocalDateTime} :
    bucket.toLocal = .ok value ↔ value.IsValid ∧ bucket.Leaves value := by
  simp only [toLocal_eq_ok_iff_parts, epochDay_eq_ok_iff_counts, LocalDateTime.ofParts_eq_ok_iff,
    timeOfDay_eq_iff]
  constructor
  · rintro ⟨day, counted, agrees, valid, date, time⟩
    exact ⟨valid, ⟨day, counted, (dateOfEpochDay_eq_iff valid.date).mp date, agrees⟩, time⟩
  · rintro ⟨valid, ⟨day, counted, near, agrees⟩, time⟩
    exact ⟨day, counted, agrees, valid, (dateOfEpochDay_eq_iff valid.date).mpr near, time⟩

/-! ## Impossible components -/

def cutFields : List DateTimeField :=
  [.monthOfYear, .dayOfMonth, .hourOfDay, .minuteOfHour, .secondOfMinute, .nanoOfSecond]

/-- A component has a value that no date-time has there. A day of the year before the first is one
if the date is found by it. -/
def HasImpossible (bucket : Bucket) : Prop :=
  (∃ field ∈ cutFields, ∃ value ∈ bucket.fields field, field.admits value = false) ∨
    bucket.hasMonthOrDay = false ∧ bucket.hasWeek = false ∧
      ∃ number ∈ bucket.fields .dayOfYear, number < 1

/-- The values of a component that no bucket gets by with: days behind the end of every month, and
numbers of the clock of which the word that holds them leaves none that a clock shows. -/
def isRefused (field : DateTimeField) (value : Int) : Bool :=
  match field with
  | .dayOfMonth => 31 < value
  | .hourOfDay | .minuteOfHour | .secondOfMinute => !field.admits (value % 256)
  | .nanoOfSecond => !field.admits (value % 4294967296)
  | _ => false

/-- Nanoseconds are not heeded beside the milliseconds of the day alone. -/
def heeds (bucket : Bucket) (field : DateTimeField) : Bool :=
  field ≠ .nanoOfSecond || bucket.hasClock || (bucket.fields .millisOfDay).isNone

def HasRefused (bucket : Bucket) : Prop :=
  ∃ field, bucket.heeds field = true ∧ ∃ value ∈ bucket.fields field, isRefused field value = true

theorem hasClock_of_read {field : DateTimeField} {value : Int} (clock : field ∈ clockFields)
    (read : bucket.fields field = some value) : bucket.hasClock = true :=
  List.any_eq_true.mpr ⟨field, clock, Option.isSome_iff_exists.mpr ⟨value, read⟩⟩

theorem LeavesTime.clock {time : TimeOfDay} (left : bucket.LeavesTime time)
    (alone : bucket.hasClock = true ∨ bucket.fields .millisOfDay = none) :
    bucket.LeavesClock time := by
  unfold LeavesTime at left
  rcases alone with clock | noMillis
  · rwa [clock] at left
  · rw [noMillis] at left
    cases clock : bucket.hasClock <;> rwa [clock] at left

theorem not_leaves_of_late_day {value : LocalDateTime} {day : Int}
    (read : bucket.fields .dayOfMonth = some day) (late : 31 < day) : ¬ bucket.Leaves value := by
  rintro ⟨⟨_, counted, _⟩, _⟩
  have monthOrDay : bucket.hasMonthOrDay = true := by
    rw [hasMonthOrDay, read, Option.isSome_some, Bool.or_true]
  rw [CountsTo, if_pos monthOrDay] at counted
  obtain ⟨year, _, inMonth, _⟩ := counted
  -- The day is compared as it was read, before it is cut, and no month is longer than January.
  have short := daysInMonth_le_thirtyOne year bucket.monthByte
  rw [read, Option.getD_some] at inMonth
  omega

theorem admits_natCast {field : DateTimeField} {number most : Nat}
    (range : field.parseRange? = some (0, (most : Int))) (numberLe : number ≤ most) :
    field.admits number = true := by
  rw [DateTimeField.admits, range, Bool.and_eq_true, decide_eq_true_eq, decide_eq_true_eq]
  omega

theorem HasRefused.not_leaves (refused : bucket.HasRefused) {value : LocalDateTime}
    (valid : value.time.IsValid) : ¬ bucket.Leaves value := by
  obtain ⟨field, heeded, number, read, refuses⟩ := refused
  intro leaves
  have clock (clock : field ∈ clockFields) : bucket.LeavesClock value.time :=
    leaves.time.clock (Or.inl (hasClock_of_read clock read))
  unfold isRefused at refuses
  cases field with
  | dayOfMonth => exact not_leaves_of_late_day read (of_decide_eq_true refuses) leaves
  | hourOfDay =>
      have left := (clock (by decide)).hour
      have kept : bucket.hour = number := by rw [hour_eq_match, read]
      rw [kept] at left
      rw [← left, admits_natCast rfl valid.hour_le] at refuses
      cases refuses
  | minuteOfHour =>
      have left := (clock (by decide)).minute
      rw [read, Option.getD_some] at left
      rw [← left, admits_natCast rfl valid.minute_le] at refuses
      cases refuses
  | secondOfMinute =>
      have left := (clock (by decide)).second
      rw [read, Option.getD_some] at left
      rw [← left, admits_natCast rfl valid.second_le] at refuses
      cases refuses
  | nanoOfSecond =>
      have alone : bucket.hasClock = true ∨ bucket.fields .millisOfDay = none := by
        rwa [heeds, Bool.or_assoc, Bool.or_eq_true, Bool.or_eq_true, decide_eq_true_eq,
          Option.isNone_iff_eq_none, or_iff_right (fun other => other rfl)] at heeded
      have left := (leaves.time.clock alone).nanosecond
      have kept : bucket.nanosecond = number := by rw [Bucket.nanosecond, read]
      rw [kept] at left
      rw [← left, admits_natCast rfl valid.nanosecond_le] at refuses
      cases refuses
  | _ => cases refuses

/-! ## Values that are let through -/

theorem exists_toLocal {day : Int} (counted : bucket.epochDay = .ok day) (dayGe : firstDay ≤ day)
    (dayLe : day ≤ lastDay) (noWeekday : bucket.fields .dayOfWeek = none)
    (time : bucket.timeOfDay.IsValid) : ∃ value, bucket.toLocal = .ok value := by
  obtain ⟨date, valid, rfl⟩ := exists_date dayGe dayLe
  refine ⟨_, toLocal_of_epochDay valid counted ?_ time⟩
  intro weekday read
  rw [noWeekday] at read
  cases read

theorem exists_toLocal_of_clock {time : TimeOfDay} (noDate : bucket.epochDay = empty.epochDay)
    (noWeekday : bucket.fields .dayOfWeek = none) (clock : bucket.timeOfDay = time)
    (valid : time.IsValid) : ∃ value, bucket.toLocal = .ok value := by
  have epoch : empty.epochDay = .ok 0 := by decide +kernel
  apply exists_toLocal (noDate.trans epoch) (by decide) (by decide) noWeekday
  rwa [clock]

theorem narrowed_le {field : DateTimeField} {most bits : Nat} {value : Int}
    (range : field.parseRange? = some (0, (most : Int)))
    (unrefused : (!field.admits (value % 2 ^ bits)) = false) : narrowed bits value ≤ most := by
  rw [← natCast_narrowed_eq, DateTimeField.admits, range, Bool.not_eq_false', Bool.and_eq_true,
    decide_eq_true_eq, decide_eq_true_eq] at unrefused
  omega

theorem epochDay_byte_bounds {month : Nat} (byte : month < 256) {day : Int} (dayGe : 0 ≤ day)
    (dayLt : day < 256) : firstDay ≤ Gregorian.epochDay 1970 month 1 + day - 1 ∧
      Gregorian.epochDay 1970 month 1 + day - 1 ≤ lastDay := by
  rw [epochDay_eq_add, firstDay_eq, lastDay_eq]
  unfold daysBeforeMarchYear yearShift dayShift
  constructor <;> split <;> omega

/-- A value that is not always refused is let through in a bucket that holds nothing else. -/
theorem toLocal_of_unrefused {field : DateTimeField} {value : Int}
    (cut : field ∈ cutFields) (unrefused : isRefused field value = false) :
    ∃ made, (empty.setField field value).toLocal = .ok made := by
  unfold isRefused at unrefused
  cases field with
  | monthOfYear =>
      have byte : (empty.setField .monthOfYear value).monthByte < 256 := by
        unfold monthByte
        omega
      obtain ⟨dayGe, dayLe⟩ := epochDay_byte_bounds byte (show (0 : Int) ≤ 1 % 256 by decide)
        (by decide)
      have counted : (empty.setField .monthOfYear value).CountsTo _ :=
        ⟨1970, rfl, Int.ofNat_le.mpr (daysInMonth_pos 1970 _), rfl⟩
      exact exists_toLocal (epochDay_eq_ok_iff_counts.mpr counted) dayGe dayLe rfl
        TimeOfDay.midnight_isValid
  | dayOfMonth =>
      obtain ⟨dayGe, dayLe⟩ := epochDay_byte_bounds (show 1 < 256 by decide)
        (show 0 ≤ value % 256 by omega) (by omega)
      have counted : (empty.setField .dayOfMonth value).CountsTo _ :=
        ⟨1970, rfl, Int.not_lt.mp (of_decide_eq_false unrefused), rfl⟩
      exact exists_toLocal (epochDay_eq_ok_iff_counts.mpr counted) dayGe dayLe rfl
        TimeOfDay.midnight_isValid
  | hourOfDay =>
      have hourLe : narrowed 8 value ≤ 23 := narrowed_le rfl unrefused
      exact exists_toLocal_of_clock rfl rfl rfl
        (⟨hourLe, Nat.zero_le _, Nat.zero_le _, Nat.zero_le _⟩ :
          TimeOfDay.IsValid ⟨narrowed 8 value, 0, 0, 0⟩)
  | minuteOfHour =>
      have minuteLe : narrowed 8 value ≤ 59 := narrowed_le rfl unrefused
      exact exists_toLocal_of_clock rfl rfl rfl
        (⟨Nat.zero_le _, minuteLe, Nat.zero_le _, Nat.zero_le _⟩ :
          TimeOfDay.IsValid ⟨0, narrowed 8 value, 0, 0⟩)
  | secondOfMinute =>
      have secondLe : narrowed 8 value ≤ 59 := narrowed_le rfl unrefused
      exact exists_toLocal_of_clock rfl rfl rfl
        (⟨Nat.zero_le _, Nat.zero_le _, secondLe, Nat.zero_le _⟩ :
          TimeOfDay.IsValid ⟨0, 0, narrowed 8 value, 0⟩)
  | nanoOfSecond =>
      have nanosecondLe : narrowed 32 value ≤ 999999999 := narrowed_le rfl unrefused
      exact exists_toLocal_of_clock rfl rfl rfl
        (⟨Nat.zero_le _, Nat.zero_le _, Nat.zero_le _, nanosecondLe⟩ :
          TimeOfDay.IsValid ⟨0, 0, 0, narrowed 32 value⟩)
  | _ => exact absurd cut (by decide)

/-! ## What resolution refuses -/

/-- Resolution takes what is left of the components, whatever they are. Of the values that no
date-time has it refuses days behind the end of every month, and numbers of the clock whose word
leaves none; no other value is refused for itself. -/
theorem resolution_of_unchecked (bucket : Bucket) :
    (∀ value, bucket.toLocal = .ok value ↔ value.IsValid ∧ bucket.Leaves value) ∧
      (bucket.HasRefused → ∃ failure, bucket.toLocal = .error failure) ∧
      ∀ field ∈ cutFields, ∀ value, isRefused field value = false →
        ∃ made, (empty.setField field value).toLocal = .ok made := by
  refine ⟨fun _ => toLocal_eq_ok_iff_leaves, fun refused => ?_,
    fun _ cut _ => toLocal_of_unrefused cut⟩
  cases made : bucket.toLocal with
  | error failure => exact ⟨failure, rfl⟩
  | ok value =>
      obtain ⟨valid, leaves⟩ := toLocal_eq_ok_iff_leaves.mp made
      exact absurd leaves (refused.not_leaves valid.time)

/-- A byte leaves 44 of the hour 300, which no clock shows, and five of the hour 261. -/
theorem resolution_of_unchecked_hours :
    (empty.setField .hourOfDay 300).HasRefused ∧
      (∃ failure, (empty.setField .hourOfDay 300).toLocal = .error failure) ∧
      ∃ made, (empty.setField .hourOfDay 261).toLocal = .ok made := by
  have late : (empty.setField .hourOfDay 300).HasRefused := ⟨.hourOfDay, rfl, 300, rfl, rfl⟩
  obtain ⟨_, refused, unrefused⟩ := resolution_of_unchecked (empty.setField .hourOfDay 300)
  exact ⟨late, refused late, unrefused .hourOfDay (by decide) 261 rfl⟩

/-- A bucket with the month 257 makes the first of January. -/
theorem impossible_month_taken :
    ¬ ∀ bucket : Bucket,
      (∀ field, ∀ value ∈ bucket.fields field, -2 ^ 40 ≤ value ∧ value ≤ 2 ^ 40) →
        bucket.HasImpossible → ∃ failure, bucket.toLocal = .error failure := by
  intro refused
  obtain ⟨failure, made⟩ := refused (empty.setField .monthOfYear 257) (by
    intro field value read
    rw [fields_setField] at read
    split at read
    · cases read
      decide
    · cases read) (Or.inl ⟨.monthOfYear, by decide, 257, rfl, rfl⟩)
  have taken : (empty.setField .monthOfYear 257).toLocal = .ok ⟨⟨1970, 1, 1⟩, .midnight⟩ := rfl
  rw [taken] at made
  cases made

end Bucket

end ChronoText
