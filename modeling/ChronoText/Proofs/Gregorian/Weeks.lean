import ChronoText.Gregorian.Week
import ChronoText.Proofs.Gregorian.Succession

/-! Years and weeks. Years follow each other without a gap, and so do years of weeks, so that a day
is found again from its number in its year, and from the year, the number and the day of its week. -/

set_option autoImplicit false

namespace ChronoText.Gregorian

theorem dayOfWeek_bounds (day : Int) : 1 ≤ dayOfWeek day ∧ dayOfWeek day ≤ 7 := by
  unfold dayOfWeek
  omega

theorem weeksInYear_bounds (year : Int) : 52 ≤ weeksInYear year ∧ weeksInYear year ≤ 53 := by
  unfold weeksInYear
  simp only []
  split <;> omega

theorem daysInYear_le (year : Int) : daysInYear year ≤ 366 := by
  unfold daysInYear
  split <;> omega

/-! ## Years one after another -/

theorem epochDay_add_one_year (year : Int) :
    epochDay (year + 1) 1 1 = epochDay year 1 1 + daysInYear year := by
  have longer := daysBeforeMarchYear_add_one year
  have same : year + 1 + yearShift - 1 = year + yearShift := by omega
  rw [epochDay_eq_add, epochDay_eq_add]
  simp only [Nat.one_le_ofNat, if_true, same, longer]
  omega

theorem daysBeforeMonth_add_day_le {date : Date} (valid : date.IsValid)
    (fromMarch : ¬ date.month ≤ 2) : daysBeforeMonth date.month + date.day ≤ 306 := by
  have monthEnd := valid.day_le_month.1
  have monthLe := valid.month_le
  unfold Date.marchMonth at monthEnd
  rw [if_neg fromMarch, Nat.add_zero] at monthEnd
  unfold daysBeforeMonth at *
  omega

theorem dayOfYear_bounds {date : Date} (valid : date.IsValid) :
    1 ≤ dayOfYear date ∧ dayOfYear date ≤ daysInYear date.year := by
  have longer := daysBeforeMarchYear_add_one date.year
  have monthGe := valid.month_ge
  have dayGe := valid.day_ge
  have dayLe := valid.day_le
  have yearDays : daysInYear date.year = 365 ∨ daysInYear date.year = 366 := by
    unfold daysInYear
    split <;> simp
  unfold dayOfYear Date.epochDay
  rw [epochDay_eq_add, epochDay_eq_add]
  by_cases early : date.month ≤ 2
  · have short := daysInMonth_le_thirtyOne date.year date.month
    simp only [early, Nat.one_le_ofNat, if_true]
    omega
  · have fromMarch := daysBeforeMonth_add_day_le valid early
    unfold daysBeforeMonth at fromMarch
    simp only [early, Nat.one_le_ofNat, if_true, if_false, Int.sub_zero]
    omega

/-! ## Years of weeks one after another -/

theorem weekYearStart_eq (year : Int) :
    weekYearStart year = epochDay year 1 1 + 3 - (epochDay year 1 1 + 6) % 7 := by
  have fourth := epochDay_day year 1 4
  unfold weekYearStart dayOfWeek
  simp only []
  omega

theorem weekYearStart_add_one (year : Int) :
    weekYearStart (year + 1) = weekYearStart year + 7 * weeksInYear year := by
  have next := epochDay_add_one_year year
  rw [weekYearStart_eq, weekYearStart_eq, next]
  unfold weeksInYear dayOfWeek daysInYear
  generalize epochDay year 1 1 = first
  cases isLeapYear year with
  | true => simp only [if_true, and_true]; split <;> omega
  | false => simp only [Bool.false_eq_true, if_false, and_false, or_false]; split <;> omega

/-- The week of a date is one of the weeks of its year of weeks. -/
theorem weekDate_le (date : Date) : (weekDate date).2 ≤ weeksInYear (weekDate date).1 := by
  have some := weeksInYear_bounds (date.year + 1)
  unfold weekDate
  simp only []
  split
  · exact Int.le_refl _
  · split
    · simp only []
      omega
    · simp only []
      omega

theorem weekDate_bounds {date : Date} (valid : date.IsValid) :
    date.year - 1 ≤ (weekDate date).1 ∧ (weekDate date).1 ≤ date.year + 1 ∧
      1 ≤ (weekDate date).2 ∧ (weekDate date).2 ≤ 53 := by
  have ordinal := dayOfYear_bounds valid
  have days := daysInYear_le date.year
  have weekday := dayOfWeek_bounds date.epochDay
  have before := weeksInYear_bounds (date.year - 1)
  unfold weekDate
  simp only []
  split
  · simp only []
    omega
  · split <;> simp only [] <;> omega

/-- The year, the number and the day of its week lead back to the day. -/
theorem weekYearStart_weekDate {date : Date} (valid : date.IsValid) :
    weekYearStart (weekDate date).1 + ((weekDate date).2 - 1) * 7 + dayOfWeek date.epochDay - 1 =
      date.epochDay := by
  obtain ⟨fromFirst, upToLast⟩ := dayOfYear_bounds valid
  have days := daysInYear_le date.year
  have number : dayOfYear date = date.epochDay - epochDay date.year 1 1 + 1 := rfl
  have weekday : dayOfWeek date.epochDay = (date.epochDay + 3) % 7 + 1 := rfl
  have own := weekYearStart_eq date.year
  unfold weekDate
  simp only []
  split
  · -- Before its first week, a day of the year lies in the last week of the year before.
    have before := weekYearStart_add_one (date.year - 1)
    rw [Int.sub_add_cancel] at before
    simp only []
    omega
  · split
    · -- There is room for one more week than the year has, and no more.
      have behind := weekYearStart_add_one date.year
      have weeks := weeksInYear_bounds date.year
      simp only []
      omega
    · simp only []
      omega

end ChronoText.Gregorian
