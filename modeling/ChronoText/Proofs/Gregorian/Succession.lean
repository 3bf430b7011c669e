import ChronoText.Proofs.Gregorian.Conversion

/-! Every day from the first to the last supported one is a day of a date. Dates follow each other
day by day, so that this is shown by counting on from the first date. The conversion of other days
makes no date, unless so many bits of them are cut off that those of a date are left. -/

set_option autoImplicit false

namespace ChronoText.Gregorian

/-! ## Months and years one after another -/

/-- The days before a year from March on, counted from the first such year. -/
def daysBeforeMarchYear (marchYear : Int) : Int :=
  1461 * marchYear / 4 - marchYear / 100 + marchYear / 100 / 4

/-- Only the year that ends with a leap day has 366 days from March on. -/
theorem daysBeforeMarchYear_add_one (year : Int) :
    daysBeforeMarchYear (year + yearShift) =
      daysBeforeMarchYear (year + yearShift - 1) + daysInYear year := by
  have fourths : 1461 * (year + yearShift) / 4 =
      1461 * (year + yearShift - 1) / 4 + 365 + if year % 4 = 0 then 1 else 0 := by
    obtain ⟨fourth, rest, rfl, restGe, restLt⟩ :
        ∃ fourth rest : Int, year = 4 * fourth + rest ∧ 0 ≤ rest ∧ rest < 4 :=
      ⟨year / 4, year % 4, by omega, by omega, by omega⟩
    unfold yearShift
    interval_cases rest <;> split <;> omega
  have centuries : (year + yearShift) / 100 =
      (year + yearShift - 1) / 100 + if year % 100 = 0 then 1 else 0 := by
    unfold yearShift
    split <;> omega
  have cycles : (year + yearShift) / 100 / 4 =
      (year + yearShift - 1) / 100 / 4 + if year % 400 = 0 then 1 else 0 := by
    unfold yearShift
    split <;> omega
  have leap := isLeapYear_iff year
  unfold daysBeforeMarchYear daysInYear
  rw [cycles, fourths, centuries]
  cases isLeap : isLeapYear year <;> rw [isLeap] at leap <;>
    simp only [if_true, Bool.false_eq_true, false_iff, true_iff, if_false] at leap ⊢ <;>
    split <;> split <;> split <;> omega

theorem epochDay_eq_add (year : Int) (month day : Nat) :
    epochDay year month day =
      daysBeforeMarchYear (year + yearShift - if month ≤ 2 then 1 else 0)
        + (979 * ((month : Int) + 12 * if month ≤ 2 then 1 else 0) - 2919) / 32 + (day - 1)
        - dayShift := rfl

theorem epochDay_day (year : Int) (month day : Nat) :
    epochDay year month day = epochDay year month 1 + day - 1 := by
  rw [epochDay_eq_add, epochDay_eq_add]
  omega

theorem epochDay_next_month (year : Int) {month : Nat} (monthGe : 1 ≤ month)
    (monthLt : month < 12) :
    epochDay year (month + 1) 1 = epochDay year month 1 + daysInMonth year month := by
  have longer := daysBeforeMarchYear_add_one year
  rw [epochDay_eq_add, epochDay_eq_add]
  by_cases february : month = 2
  · subst february
    rw [daysInMonth_february]
    unfold daysInYear at longer
    simp only [Nat.reduceAdd, Nat.reduceLeDiff, if_true, if_false, Int.sub_zero]
    cases isLeap : isLeapYear year <;> rw [isLeap] at longer <;>
      simp only [if_true, Bool.false_eq_true, if_false] at longer ⊢ <;> omega
  · unfold daysInMonth
    interval_cases month <;>
      first
        | exact absurd rfl february
        | simp only [Nat.reduceAdd, Nat.reduceLeDiff, if_true, if_false]
          omega

theorem epochDay_next_year (year : Int) :
    epochDay (year + 1) 1 1 = epochDay year 12 1 + 31 := by
  have same : year + 1 + yearShift - 1 = year + yearShift - 0 := by omega
  rw [epochDay_eq_add, epochDay_eq_add]
  simp only [Nat.reduceLeDiff, if_true, if_false, same]
  omega

/-! ## Dates one after another -/

def firstDay : Int := epochDay minYear 1 1

def lastDay : Int := epochDay maxYear 12 31

theorem firstDay_eq : firstDay = -100000109 := by decide

theorem lastDay_eq : lastDay = 100000109 := by decide

theorem daysInMonth_pos (year : Int) (month : Nat) : 0 < daysInMonth year month := by
  unfold daysInMonth
  split <;> first | omega | (split <;> omega)

namespace Date

/-- The date of the day after: the next day of the month, else the first of the next month, else the
first of January of the next year. -/
def next (date : Date) : Date :=
  if date.day < daysInMonth date.year date.month then ⟨date.year, date.month, date.day + 1⟩
  else if date.month < 12 then ⟨date.year, date.month + 1, 1⟩
  else ⟨date.year + 1, 1, 1⟩

namespace IsValid

variable {date : Date}

theorem epochDay_next (valid : date.IsValid) : date.next.epochDay = date.epochDay + 1 := by
  obtain ⟨_, _, monthGe, monthLe, _, dayLe⟩ := valid
  have own := epochDay_day date.year date.month date.day
  unfold Date.next Date.epochDay
  split
  · have later := epochDay_day date.year date.month (date.day + 1)
    simp only []
    omega
  · next monthEnd =>
      split
      · next month =>
          have later := epochDay_next_month date.year monthGe month
          simp only []
          omega
      · next yearEnd =>
          have later := epochDay_next_year date.year
          have december : date.month = 12 := by omega
          have days : daysInMonth date.year 12 = 31 := rfl
          rw [december] at own monthEnd dayLe ⊢
          rw [days] at monthEnd dayLe
          simp only []
          omega

theorem next_isValid (valid : date.IsValid) (notLast : date.epochDay < lastDay) :
    date.next.IsValid := by
  obtain ⟨yearGe, yearLe, monthGe, monthLe, dayGe, dayLe⟩ := valid
  unfold Date.next
  split
  · next monthEnd => exact ⟨yearGe, yearLe, monthGe, monthLe, Nat.le_add_left 1 date.day, monthEnd⟩
  · next monthEnd =>
      split
      · next yearEnd =>
          exact ⟨yearGe, yearLe, Nat.le_add_left 1 date.month, yearEnd, Nat.le_refl 1,
            daysInMonth_pos date.year (date.month + 1)⟩
      · next yearEnd =>
          have december : date.month = 12 := by omega
          have days : daysInMonth date.year 12 = 31 := rfl
          rw [december, days] at monthEnd dayLe
          have yearLt : date.year < maxYear := by
            rcases Int.lt_or_eq_of_le yearLe with less | last
            · exact less
            · have dayEq : date.day = 31 := by omega
              rw [Date.epochDay, last, december, dayEq] at notLast
              exact absurd notLast (Int.lt_irrefl _)
          exact ⟨Int.le_trans yearGe (Int.le_add_one (Int.le_refl _)), yearLt, Nat.le_refl 1,
            Nat.le_of_ble_eq_true rfl, Nat.le_refl 1, daysInMonth_pos (date.year + 1) 1⟩

end IsValid

end Date

theorem firstDate_isValid : Date.IsValid ⟨minYear, 1, 1⟩ :=
  ⟨by decide, by decide, by decide, by decide, by decide, by decide⟩

/-- Every day from the first to the last is a day of a date. -/
theorem exists_date {day : Int} (dayGe : firstDay ≤ day) (dayLe : day ≤ lastDay) :
    ∃ date : Date, date.IsValid ∧ date.epochDay = day := by
  obtain ⟨later, rfl⟩ : ∃ later : Nat, day = firstDay + later :=
    ⟨(day - firstDay).toNat, by omega⟩
  induction later with
  | zero => exact ⟨⟨minYear, 1, 1⟩, firstDate_isValid, by rw [Int.natCast_zero, Int.add_zero]; rfl⟩
  | succ later ih =>
      obtain ⟨date, valid, epochDay⟩ := ih (by omega) (by omega)
      have nextDay := valid.epochDay_next
      exact ⟨date.next, valid.next_isValid (by omega), by omega⟩

theorem dateOfEpochDay_isValid {day : Int} (dayGe : firstDay ≤ day) (dayLe : day ≤ lastDay) :
    (dateOfEpochDay day).IsValid := by
  obtain ⟨date, valid, rfl⟩ := exists_date dayGe dayLe
  rwa [dateOfEpochDay_epochDay valid]

theorem epochDay_dateOfEpochDay {day : Int} (dayGe : firstDay ≤ day) (dayLe : day ≤ lastDay) :
    (dateOfEpochDay day).epochDay = day := by
  obtain ⟨date, valid, rfl⟩ := exists_date dayGe dayLe
  rw [dateOfEpochDay_epochDay valid]

/-! ## Days of no date -/

/-- The conversion sees the days only by their last 30 bits, as it counts quarters of them in
32. -/
theorem dateOfEpochDay_congr {first second : Int} (apart : (first - second) % 2 ^ 30 = 0) :
    dateOfEpochDay first = dateOfEpochDay second := by
  have quarters : (4 * ((first + dayShift) % 0x100000000).toNat + 3) % 0x100000000 =
      (4 * ((second + dayShift) % 0x100000000).toNat + 3) % 0x100000000 := by
    omega
  unfold dateOfEpochDay
  simp only [quarters]

/-- Every count of days is taken apart into years that start in March. -/
theorem exists_marchDays {count : Nat} (small : count < 2 ^ 30) :
    ∃ century year day, year < 100 ∧ day ≤ 365 ∧ marchDays century year day = count ∧
      (dateOfEpochDay (count - dayShift)).year =
        (100 * century + year + if 306 ≤ day then 1 else 0 : Nat) - yearShift := by
  obtain ⟨century, rest, splitCount, restLt⟩ :
      ∃ century rest, 4 * count + 3 = 146097 * century + rest ∧ rest < 146097 :=
    ⟨(4 * count + 3) / 146097, (4 * count + 3) % 146097, by omega, by omega⟩
  obtain ⟨year, left, splitRest, leftLt⟩ :
      ∃ year left, 4 * (rest / 4) + 3 = 1461 * year + left ∧ left < 1461 :=
    ⟨(4 * (rest / 4) + 3) / 1461, (4 * (rest / 4) + 3) % 1461, by omega, by omega⟩
  -- The quarters of the day that is counted are three more than what centuries and years leave.
  have centuries : 36524 * century + century / 4 + rest / 4 = count := by omega
  have years : 1461 * year / 4 + left / 4 = rest / 4 := by omega
  refine ⟨century, year, left / 4, by omega, by omega, ?_, ?_⟩
  · unfold marchDays
    omega
  · have days : (((count : Int) - dayShift + dayShift) % 0x100000000).toNat = count := by omega
    have quarters : (4 * count + 3) % 0x100000000 = 4 * count + 3 := by omega
    have centuryEq : (4 * count + 3) / 146097 = century := by omega
    have restEq : (4 * count + 3) % 146097 = rest := by omega
    have yearEq : 376287347 * (4 * (rest / 4) + 3) / 0x8000000000 = year := by
      rw [yearOfCentury_eq (by omega)]
      omega
    have dayEq : (4 * (rest / 4) + 3 - 1461 * year) / 4 = left / 4 := by omega
    unfold dateOfEpochDay
    simp only [days, quarters, centuryEq, restEq, or_three, yearEq, dayEq]

theorem supported_of_dateOfEpochDay {day : Int} (dayGe : -dayShift ≤ day)
    (dayLt : day < 2 ^ 30 - dayShift) (valid : (dateOfEpochDay day).IsValid) :
    firstDay ≤ day ∧ day ≤ lastDay := by
  obtain ⟨count, rfl⟩ : ∃ count : Nat, day = count - dayShift :=
    ⟨(day + dayShift).toNat, by omega⟩
  obtain ⟨century, year, dayOfYear, yearLt, dayLe, same, yearEq⟩ :=
    exists_marchDays (show count < 2 ^ 30 by omega)
  have yearGe := valid.year_ge
  have yearLe := valid.year_le
  rw [yearEq] at yearGe yearLe
  rw [firstDay_eq, lastDay_eq]
  unfold marchDays at same
  unfold minYear maxYear yearShift dayShift at *
  by_cases late : 306 ≤ dayOfYear <;> simp only [late, if_true, if_false] at yearGe yearLe <;> omega

/-- The conversion finds a supported date from its day and from all days that are some multiple of
30 bits away. -/
theorem dateOfEpochDay_eq_iff {date : Date} (valid : date.IsValid) {day : Int} :
    dateOfEpochDay day = date ↔ (date.epochDay - day) % 2 ^ 30 = 0 := by
  constructor
  · intro found
    obtain ⟨near, nearGe, nearLt, apart⟩ :
        ∃ near, -dayShift ≤ near ∧ near < 2 ^ 30 - dayShift ∧ (near - day) % 2 ^ 30 = 0 :=
      ⟨(day + dayShift) % 2 ^ 30 - dayShift, by omega, by omega, by omega⟩
    have foundNear : dateOfEpochDay near = date := (dateOfEpochDay_congr apart).trans found
    obtain ⟨fromFirst, upToLast⟩ :=
      supported_of_dateOfEpochDay nearGe nearLt (by rwa [foundNear])
    have same := epochDay_dateOfEpochDay fromFirst upToLast
    rw [foundNear] at same
    rwa [same]
  · intro apart
    rw [← dateOfEpochDay_congr apart, dateOfEpochDay_epochDay valid]

end ChronoText.Gregorian
