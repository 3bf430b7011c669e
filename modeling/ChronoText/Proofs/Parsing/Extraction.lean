import ChronoText.Proofs.Parsing.Resolution
import ChronoText.Proofs.Temporal.Fields

/-! Components of a date-time that make it again. A date is determined by its year, month and day of
the month, by its week date or by its number in the year, and a time of day by its minute, second and
nanosecond with one of the ways to say the hour. Whatever other components of the same date-time are
there, they agree with these and change nothing. -/

set_option autoImplicit false

namespace ChronoText.Bucket

open Gregorian

/-- The bucket with just the given components of a date-time. -/
def ofComponents (value : LocalDateTime) (fields : List DateTimeField) : Bucket :=
  fields.foldl (fun bucket field => bucket.setField field (Iso.fieldValue value field)) .empty

/-- The components say in which year the date lies: a year of an era without the era is one of the
common era. -/
def YearKnown (value : LocalDateTime) (fields : List DateTimeField) : Prop :=
  .year ∈ fields ∨ (.yearOfEra ∈ fields ∧ (.era ∈ fields ∨ 1 ≤ value.date.year))

/-- The components say what the date is. A month goes before a week and a week before a day of the
year, so each way excludes those before it. -/
inductive DateKnown (value : LocalDateTime) (fields : List DateTimeField) : Prop where
  | monthAndDay :
      .monthOfYear ∈ fields → .dayOfMonth ∈ fields → YearKnown value fields → DateKnown value fields
  | weekDate :
      .monthOfYear ∉ fields → .dayOfMonth ∉ fields → .weekYear ∈ fields →
      .weekOfWeekYear ∈ fields → .dayOfWeek ∈ fields →
      minYear ≤ (Gregorian.weekDate value.date).1 → (Gregorian.weekDate value.date).1 ≤ maxYear →
      DateKnown value fields
  | ordinal :
      .monthOfYear ∉ fields → .dayOfMonth ∉ fields → .weekYear ∉ fields →
      .weekOfWeekYear ∉ fields → .dayOfYear ∈ fields → YearKnown value fields →
      DateKnown value fields

/-- One of the ways to say the hour is complete. -/
inductive HourKnown (fields : List DateTimeField) : Prop where
  | hour : .hourOfDay ∈ fields → HourKnown fields
  | clockHour : .clockHourOfDay ∈ fields → HourKnown fields
  | halfDay :
      .halfDayOfDay ∈ fields → .hourOfHalfDay ∈ fields ∨ .clockHourOfHalfDay ∈ fields →
      HourKnown fields

structure TimeKnown (fields : List DateTimeField) : Prop where
  hour : HourKnown fields
  minuteOfHour : .minuteOfHour ∈ fields
  secondOfMinute : .secondOfMinute ∈ fields
  nanoOfSecond : .nanoOfSecond ∈ fields

variable {value : LocalDateTime} {fields : List DateTimeField}

theorem fields_ofComponents (value : LocalDateTime) (fields : List DateTimeField)
    (field : DateTimeField) :
    (ofComponents value fields).fields field =
      if field ∈ fields then some (Iso.fieldValue value field) else none := by
  have more : ∀ bucket : Bucket,
      (fields.foldl (fun bucket field => bucket.setField field (Iso.fieldValue value field))
        bucket).fields field =
      if field ∈ fields then some (Iso.fieldValue value field) else bucket.fields field := by
    induction fields with
    | nil => exact fun bucket => rfl
    | cons first others ih =>
        intro bucket
        rw [List.foldl_cons, ih, fields_setField]
        by_cases later : field ∈ others
        · simp [later]
        · by_cases now : field = first
          · subst now
            simp [later]
          · simp [later, now]
  exact more .empty

theorem fields_of_mem {field : DateTimeField} (member : field ∈ fields) :
    (ofComponents value fields).fields field = some (Iso.fieldValue value field) := by
  rw [fields_ofComponents, if_pos member]

theorem fields_of_not_mem {field : DateTimeField} (missing : field ∉ fields) :
    (ofComponents value fields).fields field = none := by
  rw [fields_ofComponents, if_neg missing]

/-! ## Dates -/

theorem YearKnown.yearNumber (known : YearKnown value fields) (valid : value.date.IsValid) :
    (ofComponents value fields).yearNumber = value.date.year := by
  have yearGe := valid.year_ge
  have yearLe := valid.year_le
  unfold minYear at yearGe
  unfold maxYear at yearLe
  unfold Bucket.yearNumber
  by_cases year : .year ∈ fields
  · rw [fields_of_mem year]
    rfl
  · obtain ⟨yearOfEra, era⟩ := known.resolve_left year
    rw [fields_of_not_mem year, fields_of_mem yearOfEra]
    have inEra : (if (ofComponents value fields).fields .era = some 0
        then 1 - Iso.fieldValue value .yearOfEra else Iso.fieldValue value .yearOfEra) =
        value.date.year := by
      by_cases read : .era ∈ fields
      · rw [fields_of_mem read]
        simp only [Iso.fieldValue, Iso.yearOfEra]
        split <;> simp
      · have common : 0 < value.date.year := (era.resolve_left read)
        rw [fields_of_not_mem read]
        simp [Iso.fieldValue, Iso.yearOfEra, common]
    simp only [inEra]
    apply wrapped_eq_self <;> omega

theorem YearKnown.year (known : YearKnown value fields) (valid : value.date.IsValid) :
    (ofComponents value fields).year = .ok value.date.year :=
  year_eq_of_yearNumber valid (known.yearNumber valid)

theorem hasMonthOrDay_eq_false (noMonth : .monthOfYear ∉ fields) (noDay : .dayOfMonth ∉ fields) :
    (ofComponents value fields).hasMonthOrDay = false := by
  rw [hasMonthOrDay, fields_of_not_mem noMonth, fields_of_not_mem noDay]
  rfl

theorem DateKnown.epochDay (known : DateKnown value fields) (valid : value.date.IsValid) :
    (ofComponents value fields).epochDay = .ok value.date.epochDay := by
  unfold Bucket.epochDay
  cases known with
  | monthAndDay month day year =>
      have read : (ofComponents value fields).hasMonthOrDay = true := by
        rw [hasMonthOrDay, fields_of_mem month]
        rfl
      simp only [read, if_true]
      apply dayOfCalendarDate_eq valid (year.year valid)
      · rw [fields_of_mem month, Option.getD_some]
        rfl
      · rw [fields_of_mem day, Option.getD_some]
        rfl
  | weekDate noMonth noDay weekYear week dayOfWeek yearGe yearLe =>
      simp only [hasMonthOrDay_eq_false noMonth noDay, Bool.false_eq_true, if_false,
        fields_of_mem weekYear, Option.isSome_some, Bool.true_or, if_true]
      apply dayOfWeekDate_eq valid
      · rw [Bucket.weekYear, fields_of_mem weekYear]
        exact if_pos ⟨yearGe, yearLe⟩
      · rw [fields_of_mem week, Option.getD_some]
        rfl
      · rw [fields_of_mem dayOfWeek, Option.getD_some]
        rfl
  | ordinal noMonth noDay noWeekYear noWeek dayOfYear year =>
      simp only [hasMonthOrDay_eq_false noMonth noDay, fields_of_not_mem noWeekYear,
        fields_of_not_mem noWeek, Option.isSome_none, Bool.or_self, Bool.false_eq_true, if_false,
        fields_of_mem dayOfYear]
      exact dayOfOrdinalDate_eq valid (year.year valid)

/-! ## Times -/

theorem HourKnown.hour_eq (known : HourKnown fields) (hourLe : value.time.hour ≤ 23) :
    (ofComponents value fields).hour = value.time.hour := by
  unfold Bucket.hour
  -- Of several ways to say the hour only the first that was read counts.
  by_cases hour : .hourOfDay ∈ fields
  · rw [fields_of_mem hour]
    rfl
  by_cases clockHour : .clockHourOfDay ∈ fields
  · rw [fields_of_not_mem hour, fields_of_mem clockHour]
    simp only [Iso.fieldValue]
    rw [Int.tmod_eq_emod_of_nonneg (by split <;> omega)]
    split <;> omega
  obtain ⟨halfDay, hourOfHalfDay⟩ :
      .halfDayOfDay ∈ fields ∧ (.hourOfHalfDay ∈ fields ∨ .clockHourOfHalfDay ∈ fields) := by
    cases known with
    | hour read => exact absurd read hour
    | clockHour read => exact absurd read clockHour
    | halfDay halfDay hourOfHalfDay => exact ⟨halfDay, hourOfHalfDay⟩
  rw [fields_of_not_mem hour, fields_of_not_mem clockHour, fields_of_mem halfDay]
  by_cases read : .hourOfHalfDay ∈ fields
  · rw [fields_of_mem read]
    simp only [Iso.fieldValue, Option.getD_some]
    omega
  · rw [fields_of_not_mem read, fields_of_mem (hourOfHalfDay.resolve_left read)]
    simp only [Iso.fieldValue, Option.getD_some]
    rw [Int.tmod_eq_emod_of_nonneg (by split <;> omega)]
    split <;> omega

theorem TimeKnown.timeOfDay_eq (known : TimeKnown fields) (valid : value.time.IsValid) :
    (ofComponents value fields).timeOfDay = value.time := by
  obtain ⟨hourLe, minuteLe, secondLe, nanosecondLe⟩ := valid
  have clock : (clockFields.any fun field =>
      ((ofComponents value fields).fields field).isSome) = true := by
    refine List.any_eq_true.mpr ⟨.minuteOfHour, by decide, ?_⟩
    rw [fields_of_mem known.minuteOfHour]
    rfl
  have nanosecond : (ofComponents value fields).nanosecond = value.time.nanosecond := by
    unfold Bucket.nanosecond
    rw [fields_of_mem known.nanoOfSecond]
    rfl
  unfold Bucket.timeOfDay
  rw [if_pos clock, known.hour.hour_eq hourLe, nanosecond, fields_of_mem known.minuteOfHour,
    fields_of_mem known.secondOfMinute]
  simp only [Option.getD_some, Iso.fieldValue]
  rw [narrowed_natCast (by omega), narrowed_natCast (by omega), narrowed_natCast (by omega),
    narrowed_natCast (by omega)]

/-- Components that determine a date-time make it, whatever other components of it there are. -/
theorem toLocal_ofComponents (valid : value.IsValid) (date : DateKnown value fields)
    (time : TimeKnown fields) : (ofComponents value fields).toLocal = .ok value := by
  have made := time.timeOfDay_eq valid.time
  have weekday : ∀ day ∈ (ofComponents value fields).fields .dayOfWeek,
      day = dayOfWeek value.date.epochDay := by
    intro day read
    rw [fields_ofComponents] at read
    split at read
    · cases read
      rfl
    · cases read
  rw [toLocal_of_epochDay valid.date (date.epochDay valid.date) weekday (made ▸ valid.time), made]

/-- A week date at the turn of the year with the clock hour of the half day, and more. -/
def turnOfYearFields : List DateTimeField :=
  [.weekYear, .weekOfWeekYear, .dayOfWeek, .dayOfYear, .centuryOfEra, .halfDayOfDay,
    .clockHourOfHalfDay, .minuteOfHour, .secondOfMinute, .nanoOfSecond, .millisOfDay]

theorem toLocal_ofComponents_turnOfYear :
    LocalDateTime.IsValid ⟨⟨2021, 1, 3⟩, ⟨12, 0, 59, 999999999⟩⟩ ∧
    DateKnown ⟨⟨2021, 1, 3⟩, ⟨12, 0, 59, 999999999⟩⟩ turnOfYearFields ∧
    TimeKnown turnOfYearFields ∧
    (ofComponents ⟨⟨2021, 1, 3⟩, ⟨12, 0, 59, 999999999⟩⟩ turnOfYearFields).toLocal =
      .ok ⟨⟨2021, 1, 3⟩, ⟨12, 0, 59, 999999999⟩⟩ := by
  have valid : LocalDateTime.IsValid ⟨⟨2021, 1, 3⟩, ⟨12, 0, 59, 999999999⟩⟩ :=
    ⟨⟨by decide, by decide, by decide, by decide, by decide, by decide⟩,
      ⟨by decide, by decide, by decide, by decide⟩⟩
  have date : DateKnown ⟨⟨2021, 1, 3⟩, ⟨12, 0, 59, 999999999⟩⟩ turnOfYearFields :=
    .weekDate (by decide) (by decide) (by decide) (by decide) (by decide) (by decide) (by decide)
  have time : TimeKnown turnOfYearFields :=
    ⟨.halfDay (by decide) (.inr (by decide)), by decide, by decide, by decide⟩
  exact ⟨valid, date, time, toLocal_ofComponents valid date time⟩

end ChronoText.Bucket
