import ChronoText.Formatter.DateTime
import ChronoText.Proofs.Parsing.Components
import ChronoText.Proofs.Temporal.Instants

/-! The round-trip pattern. It prints the date, the time to the nanosecond and the offset, so that
nothing is lost: date-times come back with the offset they were printed with, and instants are found
again in every zone. -/

set_option autoImplicit false

namespace ChronoText

namespace Pattern

def roundTripElements : List Element :=
  let dash : Element := .literal ⟨.quoted, "-"⟩
  let colon : Element := .literal ⟨.quoted, ":"⟩
  [.number (.ofDateTime .year 4 6), dash, .number (.ofDateTime .monthOfYear 2 2), dash,
    .number (.ofDateTime .dayOfMonth 2 2), .literal ⟨.quoted, "T"⟩,
    .number (.ofDateTime .hourOfDay 2 2), colon, .number (.ofDateTime .minuteOfHour 2 2), colon,
    .number (.ofDateTime .secondOfMinute 2 2), .literal ⟨.quoted, "."⟩, .fraction ⟨9⟩,
    .offset .extended]

theorem elements_roundTrip : Pattern.elements .invariant "o" = .ok roundTripElements := by
  cbv

theorem delimited_roundTrip (value : LocalDateTime) :
    Delimited .invariant value [] roundTripElements := by
  have ends (text : String) {c : Char} (one : text.toList = [c])
      (noDigit : Text.digitValue? '0' c = none) :
      Literal.EndsDigits .invariant ⟨.quoted, text⟩ := ⟨c, [], one, noDigit⟩
  have dash := ends "-" rfl (by decide)
  have colon := ends ":" rfl (by decide)
  refine .beforeText rfl dash (.literal ?_)
  refine .beforeText rfl dash (.literal ?_)
  refine .beforeText rfl (ends "T" rfl (by decide)) (.literal ?_)
  refine .beforeText rfl colon (.literal ?_)
  refine .beforeText rfl colon (.literal ?_)
  refine .beforeText rfl (ends "." rfl (by decide)) (.literal ?_)
  exact .fraction (.lastOffset rfl)

theorem kept_roundTrip (value : LocalDateTime) : kept roundTripElements value = value := by
  show LocalDateTime.mk value.date
    ⟨value.time.hour, value.time.minute, value.time.second,
      FractionField.cut ⟨9⟩ value.time.nanosecond⟩ = value
  rw [FractionField.cut_nine]

theorem parseWhole_roundTrip {settings : ParseSettings} (culture : settings.culture = .invariant)
    (styles : settings.styles = {}) {value : LocalDateTime} (valid : value.IsValid)
    (offset : Offset) (handle : Nat) (wanted : String) :
    parseWhole roundTripElements settings
        (Element.print ⟨.invariant, .dateTime value (some offset) (Iso.calendar handle)⟩
          (.composite roundTripElements)) wanted =
      .ok (recordedBucket roundTripElements value (some offset)) := by
  let context : PrintContext :=
    ⟨.invariant, .dateTime value (some offset) (Iso.calendar handle)⟩
  have compiled := elements_isCompiled elements_roundTrip
  have legible : Legible settings context [] 0 false roundTripElements
      (roundTripElements.foldl (record value (some offset))) :=
    (delimited_roundTrip value).legible compiled Culture.invariant_writesPlainNumbers culture rfl
      (by rw [styles]) valid (fun _ => rfl) 0 false
  have text : Element.print context (.composite roundTripElements) ≠ [] := by
    simp [roundTripElements, Element.print, Element.printFrom, Literal.print, Literal.resolve]
  rw [← foldl_record_empty compiled]
  exact legible.parseWhole_print (by rw [styles]) text wanted

theorem toLocal_roundTrip {value : LocalDateTime} (valid : value.IsValid) (offset : Offset) :
    (recordedBucket roundTripElements value (some offset)).toLocal = .ok value := by
  have made : (recordedBucket roundTripElements value (some offset)).toLocal = _ :=
    toLocal_of_recorded (elements_isCompiled elements_roundTrip) valid rfl rfl rfl rfl rfl rfl
  rwa [kept_roundTrip] at made

end Pattern

namespace DateTimeFormatter

open Pattern

def roundTrip (handle : Nat) : DateTimeFormatter :=
  let tree : FormatTree := ⟨handle, roundTripElements⟩
  { printer? := some tree, parser? := some tree }

theorem ofPattern_roundTrip (handle : Nat) :
    ofPattern handle .invariant "o" = .ok (roundTrip handle) := by
  rw [ofPattern, elements_roundTrip]
  rfl

/-- Whatever becomes of offsets, the value is made of the components and the offset that were
printed. -/
theorem parse_printAtOffset (handle : Nat) (offsets : OffsetHandling) {value : OffsetDateTime}
    (valid : value.datetime.IsValid) :
    ∃ text, { roundTrip handle with offsets }.printAtOffset value = .ok text ∧
      { roundTrip handle with offsets }.parse (String.ofList text) =
        failureAsError ({ roundTrip handle with offsets }.valueOf
          (recordedBucket roundTripElements value.datetime (some value.offset))) := by
  refine ⟨_, rfl, ?_⟩
  have culture : { roundTrip handle with offsets }.parseSettings.culture = .invariant := rfl
  have read := parseWhole_roundTrip culture rfl valid value.offset 0 "OffsetDateTime"
  simp only [parse, tryParse, requireParser, roundTrip, bind, Except.bind, pure, Except.pure,
    String.toList_ofList]
  exact congrArg _ (congrArg (Except.bind · _) read)

theorem valueOf_asParsed (handle : Nat) {value : OffsetDateTime} (valid : value.datetime.IsValid) :
    (roundTrip handle).withOffsetParsed.valueOf
        (recordedBucket roundTripElements value.datetime (some value.offset)) = .ok value := by
  simp only [valueOf, toLocal_roundTrip valid]
  rfl

/-- In a zone, the value is what a clock of the zone shows at the instant of the printed one. -/
theorem valueOf_inZone (handle : Nat) (zone : Zone) {value : OffsetDateTime} {instant : Instant}
    (valid : value.datetime.IsValid) (shown : value.toInstant = .ok instant) :
    ((roundTrip handle).withZone zone).valueOf
        (recordedBucket roundTripElements value.datetime (some value.offset)) =
      .ok (.ofInstant instant (zone.offsetAt instant)) := by
  have held : (recordedBucket roundTripElements value.datetime (some value.offset)).offset? =
      some value.offset := rfl
  have zoned : ((roundTrip handle).withZone zone).offsets = .inZone zone := rfl
  have shown : (OffsetDateTime.mk value.datetime value.offset).toInstant = .ok instant := shown
  simp only [valueOf, toLocal_roundTrip valid, held, zoned, shown, bind, Except.bind]
  rfl

/-- The round-trip pattern loses nothing: a date-time comes back with its offset, and an instant
comes back in the zone it was printed in, where it is found again. -/
theorem roundTrip_recovers (handle : Nat) :
    ∃ formatter, ofPattern handle .invariant "o" = .ok formatter ∧
      (∀ value : OffsetDateTime, value.datetime.IsValid →
        ∃ text, formatter.withOffsetParsed.printOffsetDateTime value = .ok text ∧
          formatter.withOffsetParsed.parse text = .ok value) ∧
      ∀ (zone : Zone) (instant : Instant),
        ∃ text, (formatter.withZone zone).printInstant instant = .ok text ∧
          (formatter.withZone zone).parse text =
            .ok (.ofInstant instant (zone.offsetAt instant)) ∧
          (OffsetDateTime.ofInstant instant (zone.offsetAt instant)).toInstant = .ok instant := by
  refine ⟨roundTrip handle, ofPattern_roundTrip handle, ?_, ?_⟩
  · intro value valid
    obtain ⟨text, printed, read⟩ := parse_printAtOffset handle .asParsed valid
    refine ⟨String.ofList text, congrArg (String.ofList <$> ·) printed, read.trans ?_⟩
    exact congrArg failureAsError (valueOf_asParsed handle valid)
  · intro zone instant
    have valid := OffsetDateTime.ofInstant_isValid instant (zone.offsetAt instant)
    have shown := OffsetDateTime.toInstant_ofInstant instant (zone.offsetAt instant)
    obtain ⟨text, printed, read⟩ := parse_printAtOffset handle (.inZone zone) valid
    refine ⟨String.ofList text, congrArg (String.ofList <$> ·) printed, read.trans ?_, shown⟩
    exact congrArg failureAsError (valueOf_inZone handle zone valid shown)

/-- The first nanosecond but one of the least year, at the smallest offset. -/
theorem roundTrip_recovers_least :
    ∃ formatter, ofPattern 0 .invariant "o" = .ok formatter ∧
      ∃ text,
        formatter.withOffsetParsed.printOffsetDateTime
          ⟨⟨⟨-271821, 1, 1⟩, ⟨0, 0, 0, 1⟩⟩, .smallest⟩ = .ok text ∧
        formatter.withOffsetParsed.parse text =
          .ok ⟨⟨⟨-271821, 1, 1⟩, ⟨0, 0, 0, 1⟩⟩, .smallest⟩ := by
  obtain ⟨formatter, made, values, _⟩ := roundTrip_recovers 0
  have valid : LocalDateTime.IsValid ⟨⟨-271821, 1, 1⟩, ⟨0, 0, 0, 1⟩⟩ :=
    ⟨⟨by decide, by decide, by decide, by decide, by decide, by decide⟩,
      ⟨by decide, by decide, by decide, by decide⟩⟩
  exact ⟨formatter, made, values _ valid⟩

end DateTimeFormatter

end ChronoText
