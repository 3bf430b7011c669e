import ChronoText.Proofs.Gregorian.Words
import ChronoText.Temporal.Instant

/-! Instants and what clocks show. At any offset, a clock shows every instant as a date-time of the
supported years, from which the instant is found again. What a clock shows is the instant's alone: a
date-time that stands for an instant is what the clock shows at it. -/

set_option autoImplicit false

namespace ChronoText

namespace TimeOfDay

theorem ofNanosecondOfDay_isValid {nanoseconds : Nat}
    (inDay : nanoseconds < LocalDateTime.nanosecondsPerDay) :
    (ofNanosecondOfDay nanoseconds).IsValid := by
  unfold LocalDateTime.nanosecondsPerDay at inDay
  refine ⟨?_, ?_, ?_, ?_⟩ <;> simp only [ofNanosecondOfDay] <;> omega

theorem nanosecondOfDay_ofNanosecondOfDay (nanoseconds : Nat) :
    (ofNanosecondOfDay nanoseconds).nanosecondOfDay = nanoseconds := by
  simp only [ofNanosecondOfDay, nanosecondOfDay]
  omega

variable {time : TimeOfDay}

theorem IsValid.nanosecondOfDay_lt (valid : time.IsValid) :
    time.nanosecondOfDay < LocalDateTime.nanosecondsPerDay := by
  obtain ⟨hourLe, minuteLe, secondLe, nanosecondLe⟩ := valid
  unfold nanosecondOfDay LocalDateTime.nanosecondsPerDay
  omega

theorem IsValid.ofNanosecondOfDay_nanosecondOfDay (valid : time.IsValid) :
    ofNanosecondOfDay time.nanosecondOfDay = time := by
  obtain ⟨hour, minute, second, nanosecond⟩ := time
  obtain ⟨hourLe, minuteLe, secondLe, nanosecondLe⟩ := valid
  simp only at hourLe minuteLe secondLe nanosecondLe
  simp only [ofNanosecondOfDay, nanosecondOfDay, TimeOfDay.mk.injEq]
  omega

end TimeOfDay

namespace LocalDateTime

open Gregorian

def Supported (nanoseconds : Int) : Prop :=
  firstDay ≤ nanoseconds / nanosecondsPerDay ∧ nanoseconds / nanosecondsPerDay ≤ lastDay

theorem ofEpochNanoseconds_isValid {nanoseconds : Int} (supported : Supported nanoseconds) :
    (ofEpochNanoseconds nanoseconds).IsValid where
  date := dateOfEpochDay_isValid supported.1 supported.2
  time := by
    apply TimeOfDay.ofNanosecondOfDay_isValid
    unfold nanosecondsPerDay
    omega

theorem epochNanoseconds_ofEpochNanoseconds {nanoseconds : Int}
    (supported : Supported nanoseconds) :
    (ofEpochNanoseconds nanoseconds).epochNanoseconds = nanoseconds := by
  have day : (ofEpochNanoseconds nanoseconds).epochDay = nanoseconds / nanosecondsPerDay :=
    epochDay_dateOfEpochDay supported.1 supported.2
  have time : (ofEpochNanoseconds nanoseconds).time.nanosecondOfDay =
      (nanoseconds % nanosecondsPerDay).toNat :=
    TimeOfDay.nanosecondOfDay_ofNanosecondOfDay _
  unfold epochNanoseconds
  rw [day, time]
  unfold nanosecondsPerDay
  omega

theorem IsValid.ofEpochNanoseconds_epochNanoseconds {value : LocalDateTime}
    (valid : value.IsValid) : ofEpochNanoseconds value.epochNanoseconds = value := by
  have inDay := valid.time.nanosecondOfDay_lt
  have day : value.epochNanoseconds / nanosecondsPerDay = value.date.epochDay := by
    unfold epochNanoseconds epochDay
    unfold nanosecondsPerDay at inDay ⊢
    omega
  have rest : (value.epochNanoseconds % nanosecondsPerDay).toNat = value.time.nanosecondOfDay := by
    unfold epochNanoseconds epochDay
    unfold nanosecondsPerDay at inDay ⊢
    omega
  rw [ofEpochNanoseconds, day, rest, dateOfEpochDay_epochDay valid.date,
    valid.time.ofNanosecondOfDay_nanosecondOfDay]

/-! ### In machine words -/

open Word (signed32 unsigned8 unsigned32 unsigned64 step_signed32 step_unsigned8 step_unsigned32
  step_unsigned64)

/-- The date-time of a clock that has counted a number of nanoseconds. The count of days, what is left
of the day and the parts of the time are each taken in a word of their own, which has no result where
it would cut the number off. -/
def ofEpochNanosecondsInWords (nanoseconds : Int) : Option LocalDateTime := do
  let days ← signed32.hold? (nanoseconds / nanosecondsPerDay)
  let rest ← unsigned64.hold? (nanoseconds % nanosecondsPerDay)
  let date ← dateInWords days
  let nanosecond ← unsigned32.hold? (rest % 1000000000)
  let seconds ← unsigned64.hold? (rest / 1000000000)
  let hour ← unsigned8.hold? (seconds / 3600)
  let minute ← unsigned8.hold? (seconds / 60 % 60)
  let second ← unsigned8.hold? (seconds % 60)
  pure ⟨date, ⟨hour.toNat, minute.toNat, second.toNat, nanosecond.toNat⟩⟩

/-- No word cuts anything off. -/
theorem ofEpochNanosecondsInWords_eq {nanoseconds : Int} (supported : Supported nanoseconds) :
    ofEpochNanosecondsInWords nanoseconds = some (ofEpochNanoseconds nanoseconds) := by
  obtain ⟨low, high⟩ := supported
  have first : -100001000 ≤ firstDay := by decide
  have last : lastDay ≤ 100001000 := by decide
  have date := (dateOfEpochDay_isValid low high).dateInWords_eq
  rw [epochDay_dateOfEpochDay low high] at date
  have restEq : nanoseconds % nanosecondsPerDay = ((nanoseconds % nanosecondsPerDay).toNat : Int) := by
    unfold nanosecondsPerDay
    omega
  have inDay : (nanoseconds % nanosecondsPerDay).toNat < 86400000000000 := by
    unfold nanosecondsPerDay
    omega
  unfold ofEpochNanosecondsInWords ofEpochNanoseconds TimeOfDay.ofNanosecondOfDay
  refine step_signed32 (by omega) (by omega) ?_
  rw [restEq]
  generalize (nanoseconds % nanosecondsPerDay).toNat = rest at inDay
  refine step_unsigned64 (by omega) (by omega) ?_
  rw [date, Option.bind_eq_bind, Option.bind_some]
  refine step_unsigned32 (by omega) (by omega) ?_
  refine step_unsigned64 (by omega) (by omega) ?_
  refine step_unsigned8 (by omega) (by omega) ?_
  refine step_unsigned8 (by omega) (by omega) ?_
  refine step_unsigned8 (by omega) (by omega) ?_
  rfl

end LocalDateTime

namespace OffsetDateTime

/-- Every instant lies on a supported day at every offset. -/
theorem supported_add (instant : Instant) (offset : Offset) :
    LocalDateTime.Supported (instant.nanoseconds + offset.nanoseconds) := by
  have first : Gregorian.firstDay ≤ -100000001 := by decide
  have last : 100000000 ≤ Gregorian.lastDay := by decide
  obtain ⟨nanoseconds, nanosecondsGe, nanosecondsLe⟩ := instant
  obtain ⟨seconds, secondsGe, secondsLe⟩ := offset
  unfold LocalDateTime.Supported Offset.nanoseconds LocalDateTime.nanosecondsPerDay
  simp only []
  omega

theorem ofInstant_isValid (instant : Instant) (offset : Offset) :
    (ofInstant instant offset).datetime.IsValid :=
  LocalDateTime.ofEpochNanoseconds_isValid (supported_add instant offset)

/-- The nanoseconds of the time line that a date-time at an offset stands for. -/
def utcNanoseconds (value : OffsetDateTime) : Int :=
  value.datetime.epochNanoseconds - value.offset.nanoseconds

theorem toInstant_eq_ok_iff {value : OffsetDateTime} {instant : Instant} :
    value.toInstant = .ok instant ↔ value.utcNanoseconds = instant.nanoseconds := by
  have inRange := And.intro instant.nanoseconds_ge instant.nanoseconds_le
  unfold toInstant Instant.ofNanoseconds
  constructor
  · intro found
    split at found
    · cases found
      rfl
    · cases found
  · intro same
    rw [← same] at inRange
    rw [utcNanoseconds] at inRange same
    rw [dif_pos inRange]
    simp only [same]
    rfl

theorem toInstant_ofInstant (instant : Instant) (offset : Offset) :
    (ofInstant instant offset).toInstant = .ok instant := by
  have shown := LocalDateTime.epochNanoseconds_ofEpochNanoseconds (supported_add instant offset)
  rw [toInstant_eq_ok_iff, utcNanoseconds, ofInstant, shown, Int.add_sub_cancel]

theorem exists_toInstant_eq_error_iff {value : OffsetDateTime} :
    (∃ error, value.toInstant = .error error) ↔
      ¬ (-8640000000000000000000 ≤ value.utcNanoseconds ∧
        value.utcNanoseconds ≤ 8640000000000000000000) := by
  unfold toInstant Instant.ofNanoseconds utcNanoseconds
  split
  · next inRange => exact iff_of_false nofun (not_not_intro inRange)
  · next outside => exact iff_of_true ⟨_, rfl⟩ outside

/-- A date-time that stands for an instant is what a clock at its offset shows at the instant. -/
theorem ofInstant_of_toInstant {value : OffsetDateTime} (valid : value.datetime.IsValid)
    {instant : Instant} (found : value.toInstant = .ok instant) :
    ofInstant instant value.offset = value := by
  have shown : instant.nanoseconds + value.offset.nanoseconds = value.datetime.epochNanoseconds := by
    rw [← toInstant_eq_ok_iff.mp found, utcNanoseconds, Int.sub_add_cancel]
  rw [ofInstant, shown, valid.ofEpochNanoseconds_epochNanoseconds]

/-- Instants and the date-times of clocks at an offset correspond to each other. What a clock shows is
a valid date-time, none of its numbers was cut off on the way, and it stands for the instant. A valid
date-time stands for the one instant at which it is shown, and for none exactly if it lies before or
behind all instants. -/
theorem instants_correspond :
    (∀ (instant : Instant) (offset : Offset),
      (ofInstant instant offset).datetime.IsValid ∧
      LocalDateTime.ofEpochNanosecondsInWords (instant.nanoseconds + offset.nanoseconds) =
        some (ofInstant instant offset).datetime ∧
      (ofInstant instant offset).toInstant = .ok instant) ∧
    (∀ value : OffsetDateTime, value.datetime.IsValid →
      (∀ instant, value.toInstant = .ok instant → ofInstant instant value.offset = value) ∧
      ((∃ error, value.toInstant = .error error) ↔
        ¬ (-8640000000000000000000 ≤
              value.datetime.epochNanoseconds - value.offset.nanoseconds ∧
            value.datetime.epochNanoseconds - value.offset.nanoseconds ≤
              8640000000000000000000))) := by
  constructor
  · intro instant offset
    exact ⟨ofInstant_isValid instant offset,
      LocalDateTime.ofEpochNanosecondsInWords_eq (supported_add instant offset),
      toInstant_ofInstant instant offset⟩
  · intro value valid
    exact ⟨fun _ found => ofInstant_of_toInstant valid found, exists_toInstant_eq_error_iff⟩

/-- The last instant on the clock that is furthest ahead, and a nanosecond behind it. -/
theorem instants_correspond_last :
    let last : Instant := ⟨8640000000000000000000, by decide, by decide⟩
    let shown : OffsetDateTime := ⟨⟨⟨275760, 9, 13⟩, ⟨18, 0, 0, 0⟩⟩, .largest⟩
    let behind : OffsetDateTime := ⟨⟨⟨275760, 9, 13⟩, ⟨18, 0, 0, 1⟩⟩, .largest⟩
    shown.datetime.IsValid ∧ behind.datetime.IsValid ∧
      shown.toInstant = .ok last ∧ ofInstant last .largest = shown ∧
      ∃ error, behind.toInstant = .error error := by
  intro last shown behind
  have date : Gregorian.Date.IsValid ⟨275760, 9, 13⟩ :=
    ⟨by decide, by decide, by decide, by decide, by decide, by decide⟩
  have shownValid : shown.datetime.IsValid := ⟨date, by decide, by decide, by decide, by decide⟩
  have behindValid : behind.datetime.IsValid := ⟨date, by decide, by decide, by decide, by decide⟩
  have found : shown.toInstant = .ok last := toInstant_eq_ok_iff.mpr (by decide)
  have outside : ¬ (-8640000000000000000000 ≤
        behind.datetime.epochNanoseconds - behind.offset.nanoseconds ∧
      behind.datetime.epochNanoseconds - behind.offset.nanoseconds ≤ 8640000000000000000000) := by
    decide
  exact ⟨shownValid, behindValid, found, (instants_correspond.2 shown shownValid).1 last found,
    (instants_correspond.2 behind behindValid).2.mpr outside⟩

end OffsetDateTime

end ChronoText
