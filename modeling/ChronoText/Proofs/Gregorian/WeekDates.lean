import ChronoText.Proofs.Gregorian.Weeks

/-! Week dates. The Thursday of a week lies in the year that the week belongs to, so that the three
ways to count weeks agree: from the number of a day in its year, from the weekday on which a year
starts, and from the fourth of January. The year, the number and the day of its week determine a
date. -/

set_option autoImplicit false

namespace ChronoText.Gregorian

/-! ## The year of a day -/

def InYear (year day : Int) : Prop :=
  epochDay year 1 1 ≤ day ∧ day < epochDay (year + 1) 1 1

/-- A year starts behind all days of the years before it. -/
theorem epochDay_next_year_le {earlier later : Int} (before : earlier < later) :
    epochDay (earlier + 1) 1 1 ≤ epochDay later 1 1 := by
  rcases Int.lt_or_eq_of_le before with far | next
  · rw [epochDay_eq_add, epochDay_eq_add]
    unfold daysBeforeMarchYear
    simp only [Nat.one_le_ofNat, if_true]
    omega
  · exact Int.le_of_eq (congrArg (epochDay · 1 1) next)

theorem InYear.unique {first second day : Int} (inFirst : InYear first day)
    (inSecond : InYear second day) : first = second := by
  obtain ⟨fromFirst, beforeFirst⟩ := inFirst
  obtain ⟨fromSecond, beforeSecond⟩ := inSecond
  rcases Int.lt_trichotomy first second with before | same | behind
  · have later := epochDay_next_year_le before
    omega
  · exact same
  · have later := epochDay_next_year_le behind
    omega

/-- The days of a supported year are supported. -/
theorem InYear.supported {year day : Int} (inYear : InYear year day) (yearGe : minYear ≤ year)
    (yearLe : year ≤ maxYear) : firstDay ≤ day ∧ day ≤ lastDay := by
  obtain ⟨fromStart, beforeEnd⟩ := inYear
  have first : epochDay minYear 1 1 ≤ epochDay year 1 1 := by
    rcases Int.lt_or_eq_of_le yearGe with later | same
    · have next := epochDay_next_year_le later
      have days := epochDay_add_one_year minYear
      omega
    · rw [same]
  have last : epochDay (year + 1) 1 1 ≤ epochDay (maxYear + 1) 1 1 :=
    epochDay_next_year_le (Int.lt_add_one_of_le yearLe)
  have next : epochDay (maxYear + 1) 1 1 = lastDay + 1 := by decide
  unfold firstDay
  omega

namespace Date.IsValid

variable {date : Date}

theorem inYear (valid : date.IsValid) : InYear date.year date.epochDay := by
  obtain ⟨fromFirst, upToLast⟩ := dayOfYear_bounds valid
  have next := epochDay_add_one_year date.year
  have number : dayOfYear date = date.epochDay - Gregorian.epochDay date.year 1 1 + 1 := rfl
  constructor <;> omega

theorem epochDay_supported (valid : date.IsValid) :
    firstDay ≤ date.epochDay ∧ date.epochDay ≤ lastDay :=
  valid.inYear.supported valid.year_ge valid.year_le

end Date.IsValid

/-- The conversion finds the year of a supported day, and of the days right before and behind all of
them. -/
theorem inYear_dateOfEpochDay {day : Int} (dayGe : firstDay - 1 ≤ day)
    (dayLe : day ≤ lastDay + 1) : InYear (dateOfEpochDay day).year day := by
  by_cases before : day < firstDay
  · have only : day = firstDay - 1 := by omega
    rw [only]
    exact ⟨by decide, by decide⟩
  by_cases behind : lastDay < day
  · have only : day = lastDay + 1 := by omega
    rw [only]
    exact ⟨by decide, by decide⟩
  · obtain ⟨date, valid, rfl⟩ := exists_date (Int.not_lt.mp before) (Int.not_lt.mp behind)
    rw [dateOfEpochDay_epochDay valid]
    exact valid.inYear

/-! ## The year of a week -/

/-- The Thursday of the week of a day, from its Monday to its Sunday. -/
def thursdayOfWeek (day : Int) : Int :=
  day - dayOfWeek day + 4

/-- A year of weeks starts at most three days from the start of the year. -/
theorem weekYearStart_bounds (year : Int) :
    epochDay year 1 1 - 3 ≤ weekYearStart year ∧ weekYearStart year ≤ epochDay year 1 1 + 3 := by
  rw [weekYearStart_eq]
  omega

theorem thursdayOfWeek_inYear {date : Date} (valid : date.IsValid) :
    InYear (weekDate date).1 (thursdayOfWeek date.epochDay) := by
  have day := weekYearStart_weekDate valid
  have first := (weekDate_bounds valid).2.2.1
  have last := weekDate_le date
  have start := weekYearStart_bounds (weekDate date).1
  have nextStart := weekYearStart_bounds ((weekDate date).1 + 1)
  have next := weekYearStart_add_one (weekDate date).1
  unfold InYear thursdayOfWeek
  omega

theorem year_thursdayOfWeek {date : Date} (valid : date.IsValid) :
    (dateOfEpochDay (thursdayOfWeek date.epochDay)).year = (weekDate date).1 := by
  obtain ⟨dayGe, dayLe⟩ := valid.epochDay_supported
  have first := firstDay_eq
  have last := lastDay_eq
  -- Every seventh day is a Thursday, so that no other days behind the supported ones come up.
  have thursday : thursdayOfWeek date.epochDay = 7 * ((date.epochDay + 3) / 7) := by
    unfold thursdayOfWeek dayOfWeek
    omega
  have found : InYear (dateOfEpochDay (thursdayOfWeek date.epochDay)).year
      (thursdayOfWeek date.epochDay) := by
    apply inYear_dateOfEpochDay <;> omega
  exact found.unique (thursdayOfWeek_inYear valid)

theorem eq_of_weekDate_eq {first second : Date} (firstValid : first.IsValid)
    (secondValid : second.IsValid) (weeks : weekDate first = weekDate second)
    (weekdays : dayOfWeek first.epochDay = dayOfWeek second.epochDay) : first = second := by
  have same : first.epochDay = second.epochDay := by
    rw [← weekYearStart_weekDate firstValid, ← weekYearStart_weekDate secondValid, weeks, weekdays]
  rw [← dateOfEpochDay_epochDay firstValid, ← dateOfEpochDay_epochDay secondValid, same]

/-- The week of a date is one of the weeks of its year, leads back to the date and lies in the year
of its Thursday, and no other date has the same week and weekday. From each year to the next there
are as many days as its weeks have. -/
theorem weekDates_consistent :
    (∀ date : Date, date.IsValid →
      1 ≤ (weekDate date).2 ∧ (weekDate date).2 ≤ weeksInYear (weekDate date).1 ∧
      weekYearStart (weekDate date).1 + 7 * ((weekDate date).2 - 1) + dayOfWeek date.epochDay - 1 =
        date.epochDay ∧
      (dateOfEpochDay (thursdayOfWeek date.epochDay)).year = (weekDate date).1 ∧
      ∀ other : Date, other.IsValid → weekDate other = weekDate date →
        dayOfWeek other.epochDay = dayOfWeek date.epochDay → other = date) ∧
    ∀ weekYear : Int,
      weekYearStart (weekYear + 1) - weekYearStart weekYear = 7 * weeksInYear weekYear := by
  constructor
  · intro date valid
    have day := weekYearStart_weekDate valid
    refine ⟨(weekDate_bounds valid).2.2.1, weekDate_le date, ?_, year_thursdayOfWeek valid, ?_⟩
    · omega
    · intro other otherValid weeks weekdays
      exact eq_of_weekDate_eq otherValid valid weeks weekdays
  · intro weekYear
    have next := weekYearStart_add_one weekYear
    omega

/-- The last Monday of all belongs to a week of the year behind the last one. -/
theorem weekDates_consistent_lastMonday :
    Date.IsValid ⟨275760, 12, 29⟩ ∧ Date.IsValid ⟨275760, 12, 28⟩ ∧
      weekDate ⟨275760, 12, 29⟩ = (275761, 1) ∧
      1 ≤ weeksInYear 275761 ∧
      weekYearStart 275761 + 7 * (1 - 1) + 1 - 1 = Date.epochDay ⟨275760, 12, 29⟩ ∧
      (dateOfEpochDay (thursdayOfWeek (Date.epochDay ⟨275760, 12, 29⟩))).year = 275761 ∧
      ¬ (weekDate ⟨275760, 12, 28⟩ = weekDate ⟨275760, 12, 29⟩ ∧
        dayOfWeek (Date.epochDay ⟨275760, 12, 28⟩) = dayOfWeek (Date.epochDay ⟨275760, 12, 29⟩)) := by
  have monday : Date.IsValid ⟨275760, 12, 29⟩ :=
    ⟨by decide, by decide, by decide, by decide, by decide, by decide⟩
  have sunday : Date.IsValid ⟨275760, 12, 28⟩ :=
    ⟨by decide, by decide, by decide, by decide, by decide, by decide⟩
  obtain ⟨_, last, day, thursday, unique⟩ := weekDates_consistent.1 ⟨275760, 12, 29⟩ monday
  have week : weekDate ⟨275760, 12, 29⟩ = (275761, 1) := by decide
  have weekday : dayOfWeek (Date.epochDay ⟨275760, 12, 29⟩) = 1 := by decide
  rw [week] at last day thursday
  rw [weekday] at day
  refine ⟨monday, sunday, week, last, day, thursday, fun same => ?_⟩
  exact absurd (unique ⟨275760, 12, 28⟩ sunday same.1 same.2) (by decide)

end ChronoText.Gregorian
