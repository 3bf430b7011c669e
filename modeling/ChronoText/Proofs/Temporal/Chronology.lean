import ChronoText.Proofs.Temporal.Instants

/-! Date-times in the order of time. Date-times are ordered by their parts, the year first, and so are
the counts of days and nanoseconds that they stand for: no part of a date-time is so large that the
count gets to where the next value of the part before it starts. -/

set_option autoImplicit false

namespace ChronoText

/-- Two counts compare by a part first if a larger part makes a larger count, whatever the rest is. -/
theorem compare_eq_then {part other first second : Int} {rest : Ordering}
    (less : part < other → first < second) (greater : other < part → second < first)
    (same : part = other → compare first second = rest) :
    compare first second = (compare part other).then rest := by
  rcases lt_trichotomy part other with before | equal | behind
  · rw [compare_lt_iff_lt.mpr before, compare_lt_iff_lt.mpr (less before)]
    rfl
  · rw [compare_eq_iff_eq.mpr equal]
    exact same equal
  · rw [compare_gt_iff_gt.mpr behind, compare_gt_iff_gt.mpr (greater behind)]
    rfl

/-! ## Days of dates -/

namespace Gregorian

theorem epochDay_month_le (year : Int) {month later : Nat} (monthGe : 1 ≤ month)
    (le : month ≤ later) (laterLe : later ≤ 12) :
    epochDay year month 1 ≤ epochDay year later 1 := by
  induction later, le using Nat.le_induction with
  | base => exact Int.le_refl _
  | succ later le ih =>
      have next := epochDay_next_month year (monthGe.trans le) (Nat.lt_of_succ_le laterLe)
      have before := ih (by omega)
      omega

theorem epochDay_year_le {year later : Int} (le : year ≤ later) :
    epochDay year 1 1 ≤ epochDay later 1 1 := by
  induction later, le using Int.leInduction with
  | base => exact Int.le_refl _
  | succ later le ih =>
      have december := epochDay_month_le later (Nat.le_refl 1) (show 1 ≤ 12 by decide) (Nat.le_refl 12)
      have next := epochDay_next_year later
      omega

namespace Date

/-- The first date is the earlier one by its year, by its month in the same year, or by its day in the
same month. -/
def Precedes (first second : Date) : Prop :=
  first.year < second.year ∨
    first.year = second.year ∧
      (first.month < second.month ∨ first.month = second.month ∧ first.day < second.day)

instance (first second : Date) : Decidable (first.Precedes second) :=
  inferInstanceAs (Decidable (_ ∨ _))

namespace IsValid

variable {date first second : Date}

theorem epochDay_month_start_le (valid : date.IsValid) :
    Gregorian.epochDay date.year date.month 1 ≤ date.epochDay := by
  have own := epochDay_day date.year date.month date.day
  have dayGe := valid.day_ge
  unfold Date.epochDay
  omega

theorem epochDay_year_start_le (valid : date.IsValid) :
    Gregorian.epochDay date.year 1 1 ≤ date.epochDay :=
  (epochDay_month_le date.year (Nat.le_refl 1) valid.month_ge valid.month_le).trans
    valid.epochDay_month_start_le

theorem epochDay_lt_next_month (valid : date.IsValid) (notLast : date.month < 12) :
    date.epochDay < Gregorian.epochDay date.year (date.month + 1) 1 := by
  have own := epochDay_day date.year date.month date.day
  have next := epochDay_next_month date.year valid.month_ge notLast
  have dayLe := valid.day_le
  unfold Date.epochDay
  omega

theorem epochDay_lt_next_year (valid : date.IsValid) :
    date.epochDay < Gregorian.epochDay (date.year + 1) 1 1 := by
  have next := epochDay_next_year date.year
  rcases Nat.lt_or_eq_of_le valid.month_le with notLast | december
  · have month := valid.epochDay_lt_next_month notLast
    have later := epochDay_month_le date.year (Nat.le_add_left 1 date.month) notLast (Nat.le_refl 12)
    omega
  · have own := epochDay_day date.year date.month date.day
    have dayLe := valid.day_le
    have days : daysInMonth date.year 12 = 31 := rfl
    rw [december, days] at dayLe
    rw [december] at own
    rw [Date.epochDay, december]
    omega

/-- More days lie before a later date. -/
theorem epochDay_lt (validFirst : first.IsValid) (validSecond : second.IsValid)
    (precedes : first.Precedes second) : first.epochDay < second.epochDay := by
  rcases precedes with year | ⟨year, month | ⟨month, day⟩⟩
  · calc
      first.epochDay < Gregorian.epochDay (first.year + 1) 1 1 := validFirst.epochDay_lt_next_year
      _ ≤ Gregorian.epochDay second.year 1 1 := epochDay_year_le year
      _ ≤ second.epochDay := validSecond.epochDay_year_start_le
  · have notLast : first.month < 12 := Nat.lt_of_lt_of_le month validSecond.month_le
    calc
      first.epochDay < Gregorian.epochDay first.year (first.month + 1) 1 :=
        validFirst.epochDay_lt_next_month notLast
      _ ≤ Gregorian.epochDay first.year second.month 1 :=
        epochDay_month_le first.year (Nat.le_add_left 1 first.month) month validSecond.month_le
      _ = Gregorian.epochDay second.year second.month 1 := by rw [year]
      _ ≤ second.epochDay := validSecond.epochDay_month_start_le
  · have own := epochDay_day first.year first.month first.day
    have later := epochDay_day second.year second.month second.day
    rw [← year, ← month] at later
    rw [Date.epochDay, Date.epochDay, ← year, ← month]
    omega

theorem compare_epochDay (validFirst : first.IsValid) (validSecond : second.IsValid) :
    compare first.epochDay second.epochDay =
      (compare first.year second.year).then
        ((compare (first.month : Int) second.month).then
          (compare (first.day : Int) second.day)) := by
  have earlier := validFirst.epochDay_lt validSecond
  have later := validSecond.epochDay_lt validFirst
  refine compare_eq_then (fun year => earlier (.inl year)) (fun year => later (.inl year))
    fun year => ?_
  refine compare_eq_then (fun month => earlier (.inr ⟨year, .inl (Int.ofNat_lt.mp month)⟩))
    (fun month => later (.inr ⟨year.symm, .inl (Int.ofNat_lt.mp month)⟩)) fun month => ?_
  have sameMonth := Int.ofNat_inj.mp month
  rw [← Ordering.then_eq (o := compare (first.day : Int) second.day)]
  refine compare_eq_then (fun day => earlier (.inr ⟨year, .inr ⟨sameMonth, Int.ofNat_lt.mp day⟩⟩))
    (fun day => later (.inr ⟨year.symm, .inr ⟨sameMonth.symm, Int.ofNat_lt.mp day⟩⟩)) fun day => ?_
  rw [Date.epochDay, Date.epochDay, year, sameMonth, Int.ofNat_inj.mp day]
  exact compare_eq_iff_eq.mpr rfl

end IsValid

end Date

/-! ## Counts in machine words -/

namespace Word

def signed128 : Word := ⟨-0x80000000000000000000000000000000, 0x7fffffffffffffffffffffffffffffff⟩

variable {result : Int}

theorem hold?_unsigned64 (low : 0 ≤ result) (high : result ≤ 0xffffffffffffffff) :
    unsigned64.hold? result = some result :=
  if_pos ⟨low, high⟩

theorem hold?_signed128 (low : -0x80000000000000000000000000000000 ≤ result)
    (high : result ≤ 0x7fffffffffffffffffffffffffffffff) :
    signed128.hold? result = some result :=
  if_pos ⟨low, high⟩

end Word

end Gregorian

open Gregorian.Word (signed128 unsigned64 hold?_unsigned64 hold?_signed128 step_unsigned64)

/-- The nanoseconds since midnight, counted step by step in words of 64 bits. -/
def TimeOfDay.nanosecondOfDayInWords (time : TimeOfDay) : Option Int := do
  let hours ← unsigned64.hold? (time.hour * 3600)
  let minutes ← unsigned64.hold? (time.minute * 60)
  let toTheMinute ← unsigned64.hold? (hours + minutes)
  let seconds ← unsigned64.hold? (toTheMinute + time.second)
  let whole ← unsigned64.hold? (seconds * 1000000000)
  unsigned64.hold? (whole + time.nanosecond)

/-- The nanoseconds since 1970-01-01, counted in words of 128 bits from a count of days in 32 bits. -/
def LocalDateTime.epochNanosecondsInWords (value : LocalDateTime) : Option Int := do
  let days ← Gregorian.epochDayInWords value.date.year value.date.month value.date.day
  let midnight ← signed128.hold? (days * nanosecondsPerDay)
  let rest ← value.time.nanosecondOfDayInWords
  signed128.hold? (midnight + rest)

namespace TimeOfDay

namespace IsValid

variable {time first second : TimeOfDay}

theorem nanosecondOfDayInWords_eq (valid : time.IsValid) :
    time.nanosecondOfDayInWords = some (time.nanosecondOfDay : Int) := by
  obtain ⟨hourLe, minuteLe, secondLe, nanosecondLe⟩ := valid
  unfold nanosecondOfDayInWords nanosecondOfDay
  refine step_unsigned64 (by omega) (by omega) ?_
  refine step_unsigned64 (by omega) (by omega) ?_
  refine step_unsigned64 (by omega) (by omega) ?_
  refine step_unsigned64 (by omega) (by omega) ?_
  refine step_unsigned64 (by omega) (by omega) ?_
  rw [hold?_unsigned64 (by omega) (by omega)]
  push_cast
  rfl

/-- Times of a day compare by their hours, minutes, seconds and nanoseconds. -/
theorem compare_nanosecondOfDay (validFirst : first.IsValid) (validSecond : second.IsValid) :
    compare (first.nanosecondOfDay : Int) second.nanosecondOfDay =
      (compare (first.hour : Int) second.hour).then
        ((compare (first.minute : Int) second.minute).then
          ((compare (first.second : Int) second.second).then
            ((compare (first.nanosecond : Int) second.nanosecond).then .eq))) := by
  obtain ⟨_, minuteLe, secondLe, nanosecondLe⟩ := validFirst
  obtain ⟨_, otherMinuteLe, otherSecondLe, otherNanosecondLe⟩ := validSecond
  unfold nanosecondOfDay
  refine compare_eq_then (by omega) (by omega) fun hour => ?_
  refine compare_eq_then (by omega) (by omega) fun minute => ?_
  refine compare_eq_then (by omega) (by omega) fun second => ?_
  refine compare_eq_then (by omega) (by omega) fun nanosecond => ?_
  exact compare_eq_iff_eq.mpr (by omega)

end IsValid

end TimeOfDay

namespace LocalDateTime

/-- Date-times compare by their dates, and by their times on the same day. -/
theorem order_eq_then (first second : LocalDateTime) :
    first.order second =
      ((compare first.date.year second.date.year).then
        ((compare (first.date.month : Int) second.date.month).then
          (compare (first.date.day : Int) second.date.day))).then
      ((compare (first.time.hour : Int) second.time.hour).then
        ((compare (first.time.minute : Int) second.time.minute).then
          ((compare (first.time.second : Int) second.time.second).then
            ((compare (first.time.nanosecond : Int) second.time.nanosecond).then .eq)))) := by
  rw [Ordering.then_assoc, Ordering.then_assoc]
  rfl

namespace IsValid

variable {value first second : LocalDateTime}

theorem epochNanosecondsInWords_eq (valid : value.IsValid) :
    value.epochNanosecondsInWords = some value.epochNanoseconds := by
  obtain ⟨low, high⟩ := valid.date.dayCount_bounds
  have inDay := valid.time.nanosecondOfDay_lt
  unfold Gregorian.dayShift at low high
  unfold epochNanosecondsInWords epochNanoseconds epochDay
  rw [valid.date.epochDayInWords_eq, valid.time.nanosecondOfDayInWords_eq]
  simp only [Option.bind_eq_bind, Option.bind_some]
  unfold nanosecondsPerDay at inDay ⊢
  rw [hold?_signed128 (by omega) (by omega), Option.bind_some,
    hold?_signed128 (by omega) (by omega)]

/-- Counts of nanoseconds compare by days first, and by the times of the day on the same day. -/
theorem compare_epochNanoseconds (validFirst : first.IsValid) (validSecond : second.IsValid) :
    compare first.epochNanoseconds second.epochNanoseconds =
      (compare first.date.epochDay second.date.epochDay).then
        (compare (first.time.nanosecondOfDay : Int) second.time.nanosecondOfDay) := by
  have inDay := validFirst.time.nanosecondOfDay_lt
  have otherInDay := validSecond.time.nanosecondOfDay_lt
  unfold epochNanoseconds epochDay
  unfold nanosecondsPerDay at inDay otherInDay ⊢
  refine compare_eq_then (by omega) (by omega) fun day => ?_
  rw [← Ordering.then_eq (o := compare (first.time.nanosecondOfDay : Int) _)]
  refine compare_eq_then (by omega) (by omega) fun time => ?_
  exact compare_eq_iff_eq.mpr (by omega)

theorem order_eq_compare (validFirst : first.IsValid) (validSecond : second.IsValid) :
    first.order second = compare first.epochNanoseconds second.epochNanoseconds := by
  rw [order_eq_then, validFirst.compare_epochNanoseconds validSecond,
    validFirst.date.compare_epochDay validSecond.date,
    validFirst.time.compare_nanosecondOfDay validSecond.time]

end IsValid

/-- The order of date-times is that of time. Valid date-times compare as the nanoseconds do that clocks
have counted, none of which are cut off on the way, so that different ones stand for different points in
time. More days lie before a date that is later by its year, month and day. -/
theorem order_chronological :
    (∀ first second : LocalDateTime, first.IsValid → second.IsValid →
      first.epochNanosecondsInWords = some first.epochNanoseconds ∧
      second.epochNanosecondsInWords = some second.epochNanoseconds ∧
      first.order second = compare first.epochNanoseconds second.epochNanoseconds ∧
      (first ≠ second → first.epochNanoseconds ≠ second.epochNanoseconds)) ∧
    (∀ first second : Gregorian.Date, first.IsValid → second.IsValid →
      first.Precedes second → first.epochDay < second.epochDay) := by
  constructor
  · intro first second validFirst validSecond
    refine ⟨validFirst.epochNanosecondsInWords_eq, validSecond.epochNanosecondsInWords_eq,
      validFirst.order_eq_compare validSecond, mt fun same => ?_⟩
    rw [← validFirst.ofEpochNanoseconds_epochNanoseconds,
      ← validSecond.ofEpochNanoseconds_epochNanoseconds, same]
  · exact fun first second validFirst validSecond => validFirst.epochDay_lt validSecond

/-- The last nanosecond of a February without a leap day, and the March behind it. -/
theorem order_chronological_march :
    let february : LocalDateTime := ⟨⟨1900, 2, 28⟩, ⟨23, 59, 59, 999999999⟩⟩
    let march : LocalDateTime := ⟨⟨1900, 3, 1⟩, .midnight⟩
    february.IsValid ∧ march.IsValid ∧ february.date.Precedes march.date ∧
      february.order march = .lt ∧
      february.order march = compare february.epochNanoseconds march.epochNanoseconds ∧
      february.epochNanoseconds ≠ march.epochNanoseconds ∧
      february.date.epochDay < march.date.epochDay := by
  intro february march
  have februaryValid : february.IsValid :=
    ⟨⟨by decide, by decide, by decide, by decide, by decide, by decide⟩,
      ⟨by decide, by decide, by decide, by decide⟩⟩
  have marchValid : march.IsValid :=
    ⟨⟨by decide, by decide, by decide, by decide, by decide, by decide⟩,
      ⟨by decide, by decide, by decide, by decide⟩⟩
  have precedes : february.date.Precedes march.date := by decide
  obtain ⟨compares, days⟩ := order_chronological
  obtain ⟨_, _, order, apart⟩ := compares february march februaryValid marchValid
  exact ⟨februaryValid, marchValid, precedes, by decide, order, apart (by decide),
    days _ _ februaryValid.date marchValid.date precedes⟩

end LocalDateTime

end ChronoText
