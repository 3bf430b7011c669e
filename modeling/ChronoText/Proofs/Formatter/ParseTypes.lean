import ChronoText.Proofs.Formatter.IsoPeriods
import ChronoText.Proofs.Formatter.PeriodWords
import ChronoText.Proofs.Parsing.NarrowedTypes

/-! Formats that read for a type of period. Where every unit is told by the affix behind its number and
none is read twice, reading for a type is reading for all units and turning the period to the type
afterwards, and whatever the type does not know is refused at the number that says so. The ISO form and
the English form are of this kind. -/

set_option autoImplicit false

namespace ChronoText

/-! ## Periods of a narrower type -/

theorem Period.withType_eq_ok_iff {period result : Period} {type : PeriodType} :
    period.withType type = .ok result ↔
      (∀ unit, period.get unit ≠ 0 → type.supports unit = true) ∧ { period with type } = result := by
  have none_iff : period.unsupported? type = none ↔
      ∀ unit, period.get unit ≠ 0 → type.supports unit = true := by
    simp [unsupported?, List.find?_eq_none, PeriodField.mem_all]
  unfold withType
  cases found : period.unsupported? type with
  | none =>
      rw [and_iff_right (none_iff.mp found)]
      simp only [pure, Except.pure, Except.ok.injEq]
  | some unit =>
      have unknown := mt none_iff.mpr (by rw [found]; nofun)
      simp [unknown, throw, throwThe, MonadExceptOf.throw]

namespace Bucket

variable {bucket : Bucket} {type : PeriodType} {period : Period}

theorem knownTo_empty (type : PeriodType) : empty.KnownTo type :=
  fun _ some => absurd rfl some

theorem KnownTo.exists_toPeriod (known : bucket.KnownTo type) :
    ∃ period, bucket.toPeriod type = .ok period := by
  refine ⟨_, foldlM_putUnit_eq_ok_iff.mpr ⟨fun unit _ value read some => known unit ?_, rfl⟩⟩
  rwa [amount, Option.mem_def.mp read]

theorem exists_toPeriod_standard (bucket : Bucket) :
    ∃ period, bucket.toPeriod .standard = .ok period :=
  KnownTo.exists_toPeriod fun unit _ => by cases unit <;> rfl

theorem knownTo_of_toPeriod (made : bucket.toPeriod type = .ok period) : bucket.KnownTo type := by
  obtain ⟨_, amounts, known⟩ := toPeriod_eq_ok_iff.mp made
  intro unit some
  exact known unit ((amounts unit).trans_ne some)

/-- Turning a period to a type is making it for that type. -/
theorem withType_eq_ok_iff (whole : bucket.toPeriod .standard = .ok period) {result : Period} :
    period.withType type = .ok result ↔ bucket.toPeriod type = .ok result := by
  obtain ⟨_, amounts, _⟩ := toPeriod_eq_ok_iff.mp whole
  have same (unit : PeriodField) : ({ period with type } : Period).get unit = period.get unit := by
    cases unit <;> rfl
  rw [Period.withType_eq_ok_iff, toPeriod_eq_ok_iff]
  constructor
  · rintro ⟨known, rfl⟩
    exact ⟨rfl, fun unit => (same unit).trans (amounts unit),
      fun unit some => known unit ((same unit).symm.trans_ne some)⟩
  · rintro ⟨rfl, held, known⟩
    have get_eq (unit : PeriodField) : period.get unit = result.get unit :=
      (amounts unit).trans (held unit).symm
    exact ⟨fun unit some => known unit ((get_eq unit).symm.trans_ne some),
      Period.ext_get (fun unit => (same unit).trans (get_eq unit)) rfl⟩

end Bucket

/-! ## Whole texts -/

/-- The failure is that of a unit that a type does not know, at a place before the end of the text. -/
def Failure.RefusesUnitIn (failure : Failure) (text : List Char) : Prop :=
  failure.kind = .fieldNotSupported ∧ ∃ leading rest,
    text = leading ++ rest ∧ rest ≠ [] ∧ failure.position? = some (Text.utf8Length leading)

/-- What reading a whole text for a type makes of what reading it for all units makes. -/
inductive NarrowsWhole (type : PeriodType) (text : List Char) :
    Except Failure Bucket → Except Failure Bucket → Prop where
  | same {bucket} : bucket.KnownTo type → NarrowsWhole type text (.ok bucket) (.ok bucket)
  | refused {bucket failure} :
      ¬ bucket.KnownTo type → failure.RefusesUnitIn text →
      NarrowsWhole type text (.ok bucket) (.error failure)
  | failed {failure other} : NarrowsWhole type text (.error failure) (.error other)

theorem NarrowsWhole.ok_iff {type : PeriodType} {text : List Char} {whole part : Except Failure Bucket}
    (narrows : NarrowsWhole type text whole part) {bucket : Bucket} :
    part = .ok bucket ↔ whole = .ok bucket ∧ bucket.KnownTo type := by
  cases narrows with
  | same known =>
      refine ⟨fun read => ⟨read, ?_⟩, And.left⟩
      cases read
      exact known
  | refused unknown _ =>
      refine ⟨nofun, fun ⟨read, known⟩ => ?_⟩
      cases read
      exact absurd known unknown
  | failed => exact ⟨nofun, fun ⟨read, _⟩ => nomatch read⟩

/-- The units of the format are told by the affixes behind their numbers, and none is stored twice. -/
structure FormatTree.TellsUnits (tree : FormatTree) : Prop where
  parts : ∀ element ∈ tree.elements, element.IsSuffixedOrText
  apart : tree.elements.Pairwise Element.StoreApart

theorem parseWhole_narrows {tree : FormatTree} (tells : tree.TellsUnits) (type : PeriodType)
    (settings : ParseSettings) (text : List Char) (wanted : String) :
    NarrowsWhole type text (parseWhole tree.elements (settings.narrowed .standard) text wanted)
      (parseWhole tree.elements (settings.narrowed type) text wanted) := by
  have styles (type : PeriodType) : (settings.narrowed type).styles = settings.styles := rfl
  have started := reaches_startOf settings.styles text
  have narrows := Element.parseFrom_narrows settings tells.parts tells.apart
    (startOf settings.styles text).position [] (startOf settings.styles text)
    (Bucket.knownTo_empty type)
  unfold parseWhole
  split
  · exact .failed
  · simp only [Element.parse, styles]
    generalize Element.parseFrom (settings.narrowed .standard) _ _ _ _ _ = whole at narrows ⊢
    generalize Element.parseFrom (settings.narrowed type) _ _ _ _ _ = part at narrows ⊢
    cases narrows with
    | same known =>
        dsimp only
        generalize (if settings.styles.trailingBlank = true then _ else _) = left
        split
        · exact .same known
        · exact .failed
    | @refused _ _ place _ _ _ some unknown reaches given =>
        dsimp only
        generalize (if settings.styles.trailingBlank = true then _ else _) = left
        split
        · obtain ⟨leading, rest, position⟩ := started.trans reaches
          refine .refused (fun known => ?_) ⟨rfl, leading, place.rest, rest, given, ?_⟩
          · exact absurd (known _ some) (by rw [unknown]; nofun)
          · exact congrArg _ (position.trans (Nat.zero_add _))
        · exact .failed
    | failed => exact .failed

namespace PeriodFormatter

/-! ## Formats that tell their units -/

section Narrowed

variable {formatter : PeriodFormatter} {tree : FormatTree} (tells : tree.TellsUnits)
  (parser : formatter.parser? = some tree) {text : String} {type : PeriodType}
include tells

theorem parseWhole_withParseType_narrows (formatter : PeriodFormatter) (text : String)
    (type : PeriodType) :
    NarrowsWhole type text.toList
      (parseWhole tree.elements (formatter.withParseType .standard).parseSettings text.toList "Period")
      (parseWhole tree.elements (formatter.withParseType type).parseSettings text.toList "Period") :=
  parseWhole_narrows tells type formatter.parseSettings text.toList "Period"

include parser

theorem parse_withParseType_iff {result : Period} :
    (formatter.withParseType type).parse text = .ok result ↔
      ∃ period, (formatter.withParseType .standard).parse text = .ok period ∧
        period.withType type = .ok result := by
  have whole {period : Period} :=
    @parse_eq_ok_iff (formatter.withParseType .standard) tree parser text period
  have narrows := parseWhole_withParseType_narrows tells formatter text type
  rw [@parse_eq_ok_iff (formatter.withParseType type) tree parser]
  constructor
  · rintro ⟨bucket, read, made⟩
    obtain ⟨period, all⟩ := bucket.exists_toPeriod_standard
    exact ⟨period, whole.mpr ⟨bucket, (narrows.ok_iff.mp read).1, all⟩,
      (Bucket.withType_eq_ok_iff all).mpr made⟩
  · rintro ⟨period, read, turned⟩
    obtain ⟨bucket, taken, all⟩ := whole.mp read
    have made := (Bucket.withType_eq_ok_iff all).mp turned
    exact ⟨bucket, narrows.ok_iff.mpr ⟨taken, Bucket.knownTo_of_toPeriod made⟩, made⟩

theorem tryParse_withParseType_refuses {period : Period} {unknown : FormatError}
    (read : (formatter.withParseType .standard).parse text = .ok period)
    (unturned : period.withType type = .error unknown) :
    ∃ failure, (formatter.withParseType type).tryParse text = .ok (.error failure) ∧
      failure.RefusesUnitIn text.toList := by
  obtain ⟨bucket, taken, all⟩ := (@parse_eq_ok_iff (formatter.withParseType .standard) tree parser
    text period).mp read
  have narrows := parseWhole_withParseType_narrows tells formatter text type
  have parser : (formatter.withParseType type).parser? = some tree := parser
  simp only [tryParse, parser, requireParser, pure_bind]
  rw [taken] at narrows
  generalize parseWhole tree.elements (formatter.withParseType type).parseSettings _ _ = part
    at narrows ⊢
  cases narrows with
  | same known =>
      obtain ⟨result, made⟩ := known.exists_toPeriod
      rw [(Bucket.withType_eq_ok_iff all).mpr made] at unturned
      cases unturned
  | refused _ refuses => exact ⟨_, rfl, refuses⟩

end Narrowed

/-! ## The two ready formats -/

theorem isoElements_tellUnits (handle : Nat) : FormatTree.TellsUnits ⟨handle, isoElements⟩ where
  parts := by
    have units {units : List (PeriodField × Affix)}
        (clear : ∀ entry ∈ units, entry.2.startsNoNumber = true) :
        ∀ element ∈ units.map isoNumber, element.IsSuffixedOrText := by
      intro element member
      obtain ⟨entry, among, rfl⟩ := List.mem_map.mp member
      exact .number (NumberField.ofUnit_isSuffixed (clear entry among)) nofun
    refine List.forall_mem_cons.mpr ⟨.literal, List.forall_mem_append.mpr ⟨units (by decide), ?_⟩⟩
    refine List.forall_mem_cons.mpr ⟨.separator, List.forall_mem_append.mpr ⟨units (by decide), ?_⟩⟩
    exact List.forall_mem_singleton.mpr
      (.number (NumberField.ofUnit_isSuffixed (by decide)) fun _ => nofun)
  apart := by
    simp [isoElements, isoDateUnits, isoTimeUnits, isoNumber, isoSeconds, NumberField.ofUnit,
      Element.StoreApart, Element.stores, FieldSelector.entry]

theorem wordElements_tellUnits (handle : Nat) : FormatTree.TellsUnits ⟨handle, wordElements⟩ where
  parts := by
    have unit {entry : PeriodField × Affix} (among : entry ∈ unitWords) :
        (wordNumber entry).IsSuffixedOrText :=
      .number (NumberField.ofUnit_isSuffixed (unitWords_differ.clear entry among)) nofun
    refine List.forall_mem_cons.mpr ⟨unit List.mem_cons_self, fun element member => ?_⟩
    obtain ⟨entry, among, own⟩ := List.mem_flatMap.mp member
    rcases List.mem_cons.mp own with rfl | own
    · exact .separator
    · rw [List.mem_singleton.mp own]
      exact unit (List.mem_of_mem_tail among)
  apart := by
    simp [wordElements, separatedWords, unitWords, wordNumber, NumberField.ofUnit,
      Element.StoreApart, Element.stores, FieldSelector.entry]

/-- Reading for a type gives a period exactly if reading for all units gives one that can be turned to
the type, and the same one. If it cannot be turned, the text is refused for a unit that the type does
not know, at a place before its end. Once the whole text is read, the period is always made. -/
theorem parse_withParseType {handle : Nat} {formatter : PeriodFormatter}
    (ready : formatter = iso handle ∨ formatter = words handle) (culture : Culture) (text : String)
    (type : PeriodType) :
    let whole := formatter.withCulture culture
    let part := whole.withParseType type
    (∀ result, part.parse text = .ok result ↔
      ∃ period, whole.parse text = .ok period ∧ period.withType type = .ok result) ∧
    (∀ period unknown, whole.parse text = .ok period → period.withType type = .error unknown →
      ∃ failure, part.tryParse text = .ok (.error failure) ∧
        part.parse text = .error (.ofFailure failure) ∧ failure.RefusesUnitIn text.toList) ∧
    ∃ tree ∈ part.parser?, ∀ bucket,
      parseWhole tree.elements part.parseSettings text.toList "Period" = .ok bucket →
        ∃ period, bucket.toPeriod type = .ok period := by
  intro whole part
  obtain ⟨tree, tells, parser, standard⟩ : ∃ tree : FormatTree, tree.TellsUnits ∧
      whole.parser? = some tree ∧ whole.withParseType .standard = whole := by
    rcases ready with rfl | rfl
    · exact ⟨_, isoElements_tellUnits handle, parser?_iso handle .standard, rfl⟩
    · exact ⟨_, wordElements_tellUnits handle, parser?_words handle .standard, rfl⟩
  refine ⟨fun result => ?iff, fun period unknown read unturned => ?refused,
    tree, parser, fun bucket read => ?made⟩
  case iff =>
    have turned := @parse_withParseType_iff whole tree tells parser text type result
    rwa [standard] at turned
  case refused =>
    obtain ⟨failure, refused, refuses⟩ := tryParse_withParseType_refuses tells parser
      (standard.symm ▸ read) unturned
    refine ⟨failure, refused, ?_, refuses⟩
    have parsed : part.parse text = part.tryParse text >>= failureAsError := rfl
    rw [parsed, refused]
    rfl
  case made =>
    have narrows := parseWhole_withParseType_narrows tells whole text type
    exact (narrows.ok_iff.mp read).2.exists_toPeriod

/-- Three hours are read for the time units, but not two days and three hours. -/
theorem parse_withParseType_time :
    ((iso 0).withParseType .time).parse "PT3H" = .ok { Period.zeroOf .time with hours := 3 } ∧
      ∃ failure, ((iso 0).withParseType .time).parse "P2DT3H" = .error (.ofFailure failure) ∧
        failure.RefusesUnitIn "P2DT3H".toList := by
  obtain ⟨turned, _, _⟩ := @parse_withParseType 0 (iso 0) (.inl rfl) .invariant "PT3H" .time
  obtain ⟨_, refused, _⟩ := @parse_withParseType 0 (iso 0) (.inl rfl) .invariant "P2DT3H" .time
  constructor
  · refine (turned _).mpr ⟨{ Period.zeroOf .standard with hours := 3 }, ?_, ?_⟩ <;> decide +kernel
  · obtain ⟨failure, _, read, refuses⟩ := refused
      { Period.zeroOf .standard with days := 2, hours := 3 } _ (by decide +kernel) rfl
    exact ⟨failure, read, refuses⟩

end PeriodFormatter

end ChronoText
