import ChronoText.Proofs.Formatter.OffsetRoundTrip
import ChronoText.Proofs.Parsing.Faithful

/-! The ways into a formatter of date-times and out of it. A text is read alike on every way in, which
differ in what becomes of its offset. What stands for an instant is read as that instant in every
zone, and in a zone only its instant tells how a date-time is printed. -/

set_option autoImplicit false

namespace ChronoText

/-- Every failure of the elements has a reason of its own, so that what there was to be read is never
told. -/
theorem parseWhole_wanted (elements : List Element) (settings : ParseSettings) (text : List Char)
    (first second : String) :
    parseWhole elements settings text first = parseWhole elements settings text second := by
  have reports := parse_start_reports elements settings text
  unfold parseWhole
  dsimp only
  cases read : Element.parse settings (startOf settings.styles text) {} (.composite elements) with
  | mk outcome state =>
      rw [read] at reports
      cases reports with
      | advanced _ _ => rfl
      | failed _ _ _ => rfl

namespace DateTimeFormatter

/-- The text is read as components that make the date-time, with this offset or none among them. -/
def Sets (formatter : DateTimeFormatter) (text : String) (value : LocalDateTime)
    (offset? : Option Offset) : Prop :=
  ∃ tree bucket, formatter.parser? = some tree ∧
    parseWhole tree.elements formatter.parseSettings text.toList "OffsetDateTime" = .ok bucket ∧
    bucket.toLocal = .ok value ∧ bucket.offset? = offset?

variable {formatter : DateTimeFormatter} {tree : FormatTree} {text : String}

theorem tryParse_of_tree (hasParser : formatter.parser? = some tree) (text : String) :
    formatter.tryParse text =
      .ok (parseWhole tree.elements formatter.parseSettings text.toList "OffsetDateTime" >>=
        formatter.valueOf) := by
  rw [tryParse, hasParser]
  rfl

theorem parseLocal_of_tree (hasParser : formatter.parser? = some tree) (text : String) :
    formatter.parseLocal text =
      failureAsError
        (parseWhole tree.elements formatter.parseSettings text.toList "OffsetDateTime" >>=
          Bucket.toLocal) := by
  rw [parseWhole_wanted _ _ _ "OffsetDateTime" "LocalDateTime", parseLocal, hasParser]
  rfl

theorem valueOf_of_toLocal {bucket : Bucket} {value : LocalDateTime}
    (made : bucket.toLocal = .ok value) :
    formatter.valueOf bucket =
      match bucket.offset?, formatter.offsets with
      | some offset, .asParsed => .ok ⟨value, offset⟩
      | some offset, _ =>
        match (OffsetDateTime.mk value offset).toInstant with
        | .ok instant => .ok (formatter.resolveInstant instant)
        | .error _ => .error { kind := .noSuchValue, params := [.text "OffsetDateTime"] }
      | none, .inZone zone => .ok ⟨value, zone.offsetForLocal value⟩
      | none, _ => .ok ⟨value, .utc⟩ := by
  rw [valueOf, made]
  rfl

/-- Where offsets are kept, nothing but the components decides whether there is a value. -/
theorem datetime_valueOf_asParsed (formatter : DateTimeFormatter) (bucket : Bucket) :
    OffsetDateTime.datetime <$> formatter.withOffsetParsed.valueOf bucket = bucket.toLocal := by
  cases made : bucket.toLocal with
  | error failure =>
      rw [valueOf, made]
      rfl
  | ok value =>
      rw [valueOf_of_toLocal made]
      cases bucket.offset? <;> rfl

/-- Reading a text whose components are known, whatever becomes of offsets. -/
theorem Sets.tryParse {value : LocalDateTime} {offset? : Option Offset}
    (sets : formatter.Sets text value offset?) :
    ∃ bucket : Bucket, bucket.toLocal = .ok value ∧ bucket.offset? = offset? ∧
      ∀ offsets, { formatter with offsets }.tryParse text =
        .ok ({ formatter with offsets }.valueOf bucket) := by
  obtain ⟨tree, bucket, hasParser, read, made, held⟩ := sets
  refine ⟨bucket, made, held, fun offsets => ?_⟩
  rw [@tryParse_of_tree { formatter with offsets } tree hasParser]
  exact congrArg Except.ok (congrArg (· >>= { formatter with offsets }.valueOf) read)

theorem Sets.tryParse_shown {value : LocalDateTime} {offset : Offset} {instant : Instant}
    (sets : formatter.Sets text value (some offset))
    (shown : (OffsetDateTime.mk value offset).toInstant = .ok instant)
    {offsets : OffsetHandling} (turned : offsets ≠ .asParsed) :
    { formatter with offsets }.tryParse text =
      .ok (.ok ({ formatter with offsets }.resolveInstant instant)) := by
  obtain ⟨bucket, made, held, read⟩ := sets.tryParse
  rw [read, valueOf_of_toLocal made, held]
  cases offsets with
  | asParsed => exact absurd rfl turned
  | utc | inZone zone => simp only [shown]

theorem Sets.tryParse_unshown {value : LocalDateTime} {offset : Offset} {error : FormatError}
    (sets : formatter.Sets text value (some offset))
    (unshown : (OffsetDateTime.mk value offset).toInstant = .error error)
    {offsets : OffsetHandling} (turned : offsets ≠ .asParsed) :
    { formatter with offsets }.tryParse text =
      .ok (.error { kind := .noSuchValue, params := [.text "OffsetDateTime"] }) := by
  obtain ⟨bucket, made, held, read⟩ := sets.tryParse
  rw [read, valueOf_of_toLocal made, held]
  cases offsets with
  | asParsed => exact absurd rfl turned
  | utc | inZone zone => simp only [unshown]

theorem Sets.tryParse_kept {value : LocalDateTime} {offset : Offset}
    (sets : formatter.Sets text value (some offset)) :
    formatter.withOffsetParsed.tryParse text = .ok (.ok ⟨value, offset⟩) := by
  obtain ⟨bucket, made, held, read⟩ := sets.tryParse
  rw [withOffsetParsed, read, valueOf_of_toLocal made, held]

/-- Without an offset in the text, a zone reads the date-time as what its clocks show. -/
theorem Sets.tryParse_unset {value : LocalDateTime} (sets : formatter.Sets text value none)
    (zone : Zone) :
    (formatter.withZone zone).tryParse text = .ok (.ok ⟨value, zone.offsetForLocal value⟩) := by
  obtain ⟨bucket, made, held, read⟩ := sets.tryParse
  rw [withZone, read, valueOf_of_toLocal made, held]

theorem parseLocal_eq_ok_iff (hasParser : formatter.parser? = some tree) {value : LocalDateTime} :
    formatter.parseLocal text = .ok value ↔ ∃ offset?, formatter.Sets text value offset? := by
  rw [parseLocal_of_tree hasParser, failureAsError_eq_ok_iff]
  constructor
  · intro accepted
    cases read : parseWhole tree.elements formatter.parseSettings text.toList "OffsetDateTime" with
    | error failure =>
        rw [read] at accepted
        cases accepted
    | ok bucket =>
        rw [read] at accepted
        exact ⟨bucket.offset?, tree, bucket, hasParser, read, accepted, rfl⟩
  · rintro ⟨offset?, own, bucket, isOwn, read, made, _⟩
    cases hasParser.symm.trans isOwn
    rw [read]
    exact made

/-- In a zone only the instant of a date-time tells how it is printed. -/
theorem printOffsetDateTime_of_zone {zone : Zone} (zoned : formatter.zone? = some zone)
    {value : OffsetDateTime} {instant : Instant} (shown : value.toInstant = .ok instant) :
    formatter.printOffsetDateTime value = formatter.printInstant instant := by
  unfold printOffsetDateTime
  rw [zoned, shown]
  rfl

/-- The ways in and out agree. A text is read without its offset just if it is read with it, as the
same date-time, or with the same failure. If it set an offset at which the date-time stands for an
instant, every zone reads what its clocks show at the instant, and without a zone the clock is at UTC,
so that the instant is the same for all; if the date-time stands for none, they all fail. If it set no
offset, a zone takes the date-time for one of its clocks. What is printed in a zone is printed as its
instant is. -/
theorem entryPoints_agree (formatter : DateTimeFormatter) {tree : FormatTree}
    (hasParser : formatter.parser? = some tree) (text : String) :
    (∃ result, formatter.withOffsetParsed.tryParse text = .ok result ∧
      formatter.parseLocal text = failureAsError (OffsetDateTime.datetime <$> result)) ∧
    (∀ value, formatter.parseLocal text = .ok value ↔ ∃ offset?, formatter.Sets text value offset?) ∧
    (∀ value offset, formatter.Sets text value (some offset) →
      (∀ instant, (OffsetDateTime.mk value offset).toInstant = .ok instant →
        (∀ zone, (formatter.withZone zone).tryParse text =
            .ok (.ok (.ofInstant instant (zone.offsetAt instant))) ∧
          (OffsetDateTime.ofInstant instant (zone.offsetAt instant)).toInstant = .ok instant) ∧
        { formatter with offsets := .utc }.tryParse text = .ok (.ok (.ofInstant instant .utc)) ∧
        (OffsetDateTime.ofInstant instant .utc).toInstant = .ok instant) ∧
      (¬ (-8640000000000000000000 ≤ value.epochNanoseconds - offset.nanoseconds ∧
          value.epochNanoseconds - offset.nanoseconds ≤ 8640000000000000000000) →
        (∀ zone, (formatter.withZone zone).tryParse text =
          .ok (.error { kind := .noSuchValue, params := [.text "OffsetDateTime"] })) ∧
        { formatter with offsets := .utc }.tryParse text =
          .ok (.error { kind := .noSuchValue, params := [.text "OffsetDateTime"] }))) ∧
    (∀ value, formatter.Sets text value none → ∀ zone,
      (formatter.withZone zone).tryParse text = .ok (.ok ⟨value, zone.offsetForLocal value⟩)) ∧
    (∀ printer zone, formatter.printer? = some printer → formatter.zone? = some zone →
      ∀ value instant, value.toInstant = .ok instant →
        ∃ printed, formatter.printOffsetDateTime value = .ok printed ∧
          formatter.printInstant instant = .ok printed) := by
  refine ⟨?_, fun value => parseLocal_eq_ok_iff hasParser, ?_, fun value sets => sets.tryParse_unset, ?_⟩
  · refine ⟨_, @tryParse_of_tree formatter.withOffsetParsed tree hasParser text, ?_⟩
    rw [parseLocal_of_tree hasParser]
    apply congrArg failureAsError
    show parseWhole tree.elements formatter.parseSettings text.toList "OffsetDateTime" >>=
        Bucket.toLocal = OffsetDateTime.datetime <$>
      (parseWhole tree.elements formatter.parseSettings text.toList "OffsetDateTime" >>=
        formatter.withOffsetParsed.valueOf)
    cases parseWhole tree.elements formatter.parseSettings text.toList "OffsetDateTime" with
    | error failure => rfl
    | ok bucket => exact (datetime_valueOf_asParsed formatter bucket).symm
  · intro value offset sets
    have inZone (zone : Zone) : OffsetHandling.inZone zone ≠ .asParsed := nofun
    have atUtc : OffsetHandling.utc ≠ .asParsed := nofun
    constructor
    · intro instant shown
      have found (at_ : Offset) := OffsetDateTime.toInstant_ofInstant instant at_
      refine ⟨fun zone => ⟨?_, found _⟩, ?_, found .utc⟩
      · exact sets.tryParse_shown shown (inZone zone)
      · exact sets.tryParse_shown shown atUtc
    · intro outside
      obtain ⟨error, unshown⟩ : ∃ error, (OffsetDateTime.mk value offset).toInstant = .error error :=
        OffsetDateTime.exists_toInstant_eq_error_iff.mpr outside
      refine ⟨fun zone => ?_, ?_⟩
      · exact sets.tryParse_unshown unshown (inZone zone)
      · exact sets.tryParse_unshown unshown atUtc
  · intro printer zone hasPrinter zoned value instant shown
    rw [printOffsetDateTime_of_zone zoned shown]
    simp only [printInstant, printAtOffset, hasPrinter]
    exact ⟨_, rfl, rfl⟩

/-- A year, with an offset behind it or without. -/
def years (withOffset : Bool) : DateTimeFormatter :=
  let year : Element := .number (.ofDateTime .year 4 6)
  let tree : FormatTree := ⟨0, if withOffset then [year, .offset .extended] else [year]⟩
  { printer? := some tree, parser? := some tree }

/-- Years that start two hours ahead of UTC: one that has instants, and the least, which has none. -/
theorem entryPoints_agree_years :
    let ahead := Zone.fixed 0 .largest
    let start : Instant := ⟨1704060000000000000, by decide, by decide⟩
    (∃ tree, (years true).parser? = some tree) ∧ (∃ tree, (years false).parser? = some tree) ∧
    (years true).parseLocal "2024+02:00" = .ok ⟨⟨2024, 1, 1⟩, ⟨0, 0, 0, 0⟩⟩ ∧
    ((years true).withZone ahead).tryParse "2024+02:00" = .ok (.ok (.ofInstant start .largest)) ∧
    ((years true).withZone ahead).tryParse "-271821+02:00" =
      .ok (.error { kind := .noSuchValue, params := [.text "OffsetDateTime"] }) ∧
    ((years false).withZone ahead).tryParse "2024" =
      .ok (.ok ⟨⟨⟨2024, 1, 1⟩, ⟨0, 0, 0, 0⟩⟩, .largest⟩) ∧
    ∃ printed,
      ((years true).withZone ahead).printOffsetDateTime (.ofInstant start .smallest) = .ok printed ∧
      ((years true).withZone ahead).printInstant start = .ok printed := by
  intro ahead start
  have sets : (years true).Sets "2024+02:00" ⟨⟨2024, 1, 1⟩, ⟨0, 0, 0, 0⟩⟩
      (some ⟨7200, by decide, by decide⟩) := ⟨_, _, rfl, rfl, rfl, rfl⟩
  have setsLeast : (years true).Sets "-271821+02:00" ⟨⟨-271821, 1, 1⟩, ⟨0, 0, 0, 0⟩⟩
      (some ⟨7200, by decide, by decide⟩) := ⟨_, _, rfl, rfl, rfl, rfl⟩
  have setsNone : (years false).Sets "2024" ⟨⟨2024, 1, 1⟩, ⟨0, 0, 0, 0⟩⟩ none :=
    ⟨_, _, rfl, rfl, rfl, rfl⟩
  obtain ⟨_, reads, shown, _, _⟩ := entryPoints_agree (years true) rfl "2024+02:00"
  obtain ⟨_, _, unshown, _, _⟩ := entryPoints_agree (years true) rfl "-271821+02:00"
  obtain ⟨_, _, _, unset, _⟩ := entryPoints_agree (years false) rfl "2024"
  obtain ⟨_, _, _, _, prints⟩ := entryPoints_agree ((years true).withZone ahead) rfl ""
  refine ⟨⟨_, rfl⟩, ⟨_, rfl⟩, (reads _).mpr ⟨_, sets⟩, ?_, ?_, unset _ setsNone ahead, ?_⟩
  · have found : (OffsetDateTime.mk ⟨⟨2024, 1, 1⟩, ⟨0, 0, 0, 0⟩⟩
        ⟨7200, by decide, by decide⟩).toInstant = .ok start :=
      OffsetDateTime.toInstant_eq_ok_iff.mpr (by decide)
    exact (((shown _ _ sets).1 start found).1 ahead).1
  · exact ((unshown _ _ setsLeast).2 (by decide)).1 ahead
  · exact prints _ ahead rfl rfl _ start (OffsetDateTime.toInstant_ofInstant start .smallest)

end DateTimeFormatter

end ChronoText
