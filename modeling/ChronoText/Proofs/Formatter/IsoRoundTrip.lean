import ChronoText.Proofs.Formatter.IsoPeriods
import ChronoText.Proofs.Parsing.Runs

/-! The ISO form of periods as a whole: what is read back, what is refused because the seconds do not
fit, and what any text that is read makes. -/

set_option autoImplicit false

namespace ChronoText

/-- The period has the units of the type only, and its milliseconds are less than a second and do
not differ in sign from its seconds. -/
structure Period.IsNormal (type : PeriodType) (period : Period) : Prop where
  typed : period.type = type
  known : ∀ field, type.supports field = false → period.get field = 0
  small : period.millis.toInt.natAbs ≤ 999
  sign : 0 ≤ period.seconds.toInt * period.millis.toInt

namespace Period.IsNormal

variable {type : PeriodType} {period : Period}

theorem knowsUnits (normal : period.IsNormal type) : period.KnowsUnits := by
  intro field other
  rw [normal.typed]
  by_contra unsupported
  exact other (normal.known field (Bool.not_eq_true _ ▸ unsupported))

/-- Seconds and milliseconds of one sign are the quotient and the remainder of their total. -/
theorem tdiv_totalMillis (normal : period.IsNormal type) :
    period.totalMillis.tdiv 1000 = period.seconds.toInt := by
  have small := normal.small
  have quotient := tdiv_thousand period.totalMillis
  rw [quotient, totalMillis]
  rcases mul_nonneg_iff.mp normal.sign with ⟨_, _⟩ | ⟨_, _⟩ <;> split <;> omega

theorem tmod_totalMillis (normal : period.IsNormal type) :
    period.totalMillis.tmod 1000 = period.millis.toInt := by
  have division := Int.tmod_def period.totalMillis 1000
  rw [normal.tdiv_totalMillis, totalMillis] at division
  rw [totalMillis]
  omega

theorem normalized_eq (normal : period.IsNormal type) : period.normalized = period := by
  rw [normalized, normal.tdiv_totalMillis, normal.tmod_totalMillis, Int32.ofInt_toInt,
    Int32.ofInt_toInt]

end Period.IsNormal

namespace PeriodFormatter

open ChronoText.NumberField (Numeral)

/-! ## Seconds that do not fit -/

section OutOfRange

variable {period : Period} {settings : ParseSettings}

def secondsOutOfRange (period : Period) : Failure where
  kind := .valueOutOfRange
  params := [.integer (period.totalMillis.tdiv 1000), .text PeriodField.seconds.name]

theorem isoSeconds_outOfRange (culture : settings.culture = .invariant) (known : period.KnowsUnits)
    (outside : period.totalMillis.tdiv 1000 < -2 ^ 31 ∨ 2 ^ 31 ≤ period.totalMillis.tdiv 1000)
    (position : Nat) (state : ParseState) :
    Element.parse settings
        ⟨position, Element.print period.printContext (.number isoSeconds) ++ []⟩ state
        (.number isoSeconds) =
      state.fail ⟨position, secondsOutOfRange period⟩ := by
  rw [Element.parse, Element.print, NumberField.parse, NumberField.print]
  cases shown : isoSeconds.printed? period.printContext with
  | none =>
      rw [totalMillis_of_unprinted known shown] at outside
      exact absurd outside (by decide)
  | some printed =>
      obtain ⟨readable, stands⟩ := isoSeconds_standsFor known shown
      rw [secondsOutOfRange, ← stands.value]
      rw [← stands.value] at outside
      have refused : (NumberField.ofUnit .seconds isoFields (.simple "S") true).store
          settings.periodType printed.numeral state.bucket = _ :=
        NumberField.store_ofUnit_outOfRange readable outside state.bucket
      have clear : (Affix.simple "S").startsNoNumber = true := rfl
      have taken := NumberField.read_ofUnit .seconds isoFields culture readable clear
        (Affix.readsBefore_simple "S" []) position state.bucket
      simp only [refused] at taken
      simp only [isoSeconds, taken]

theorem parseFrom_isoSeconds_outOfRange (culture : settings.culture = .invariant)
    (known : period.KnowsUnits)
    (outside : period.totalMillis.tdiv 1000 < -2 ^ 31 ∨ 2 ^ 31 ≤ period.totalMillis.tdiv 1000)
    (segment : Nat) (passed : List PassedSeparator) (position before : Nat) (state : ParseState) :
    Element.parseFrom settings segment passed
        ⟨position, Element.printFrom period.printContext before [.number isoSeconds] ++ []⟩ state
        [.number isoSeconds] =
      state.fail ⟨position, secondsOutOfRange period⟩ := by
  rw [Element.printFrom_element _ _ (Element.not_isSeparator_number _), Element.printFrom,
    List.append_nil, Element.parseFrom, isoSeconds_outOfRange culture known outside,
    ParseState.fail]
  exact fun between same => Element.not_isSeparator_number _ ⟨between, same⟩

/-- A period whose seconds do not fit is refused when it is read back. -/
theorem parse_print_outOfRange (handle : Nat) (known : period.KnowsUnits)
    (outside : period.totalMillis.tdiv 1000 < -2 ^ 31 ∨ 2 ^ 31 ≤ period.totalMillis.tdiv 1000) :
    ∃ text failure, (iso handle).print period = .ok text ∧
      ((iso handle).withParseType period.type).parse text = .error (.ofFailure failure) ∧
      failure.kind = .valueOutOfRange := by
  let formatter := (iso handle).withParseType period.type
  have legible : LegibleUpTo formatter.parseSettings period.printContext [] [.number isoSeconds] 0
      false isoElements (id ∘ recordIsoUnits period) :=
    isoElements_legible rfl rfl rfl fun _ _ => .reached
  -- All that stands in front of the seconds reads back, so that reading gets to them and stops.
  obtain ⟨segment, passed, position, before, read, _⟩ :=
    legible.parseFrom_printFrom 0 [] {}
      Bool.false_ne_true.elim (fun _ => rfl) rfl (List.forall_mem_nil _)
  rw [parseFrom_isoSeconds_outOfRange rfl known outside, List.append_nil, ParseState.fail] at read
  have refused := parseWhole_eq_error rfl (print_isoElements_ne_nil period) read rfl "Period"
  refine ⟨String.ofList (Element.print period.printContext (.composite isoElements)),
    (secondsOutOfRange period).located position, rfl, ?_⟩
  rw [parse_of_tree (parser?_iso handle period.type), String.toList_ofList, refused]
  exact ⟨rfl, rfl⟩

end OutOfRange

/-! ## What any text makes -/

def HasNormalSeconds (bucket : Bucket) : Prop :=
  (bucket.amount .millis).toInt.natAbs ≤ 999 ∧
    0 ≤ (bucket.amount .seconds).toInt * (bucket.amount .millis).toInt

def HasNoMillis (bucket : Bucket) : Prop :=
  bucket.periodFields .millis = none

theorem HasNoMillis.hasNormalSeconds {bucket : Bucket} (unread : HasNoMillis bucket) :
    HasNormalSeconds bucket := by
  have zero : bucket.amount .millis = 0 := by
    rw [Bucket.amount, unread]
    rfl
  unfold HasNormalSeconds
  rw [zero]
  exact ⟨by decide, Int.le_of_eq (Int.mul_zero _).symm⟩

theorem isoNumber_keeps (settings : ParseSettings) {entry : PeriodField × Affix}
    (other : entry.1 ≠ .millis) : (isoNumber entry).Keeps settings HasNoMillis := by
  refine Element.establishes_number ?there fun _ unread => unread
  case there =>
    intro start bucket next after read unread
    obtain ⟨required, before?, numberStart, numeral, found, stored⟩ := NumberField.read_eq_ok read
    have whole := (NumberField.readNumeral_eq_ok found).2 rfl
    have put := (NumberField.store_eq_ok rfl stored).2
    rw [whole] at put
    rw [put]
    exact (if_neg (Ne.symm other)).trans unread

theorem value_mul_signedMillis (numeral : Numeral) (millis : Nat) :
    0 ≤ numeral.value * numeral.signedMillis millis := by
  unfold Numeral.value Numeral.signedMillis
  split
  · rw [Int.neg_mul_neg]
    exact Int.mul_nonneg (Int.natCast_nonneg _) (Int.natCast_nonneg _)
  · exact Int.mul_nonneg (Int.natCast_nonneg _) (Int.natCast_nonneg _)

theorem isoSeconds_establishes (settings : ParseSettings) :
    Element.Establishes settings HasNoMillis HasNormalSeconds (.number isoSeconds) := by
  refine Element.establishes_number ?there fun _ unread => unread.hasNormalSeconds
  case there =>
    intro start bucket next after read unread
    obtain ⟨required, before?, numberStart, numeral, found, stored⟩ := NumberField.read_eq_ok read
    have small := (NumberField.readNumeral_eq_ok found).1
    have selected : isoSeconds.selector = .period .seconds := rfl
    obtain ⟨⟨least, greatest⟩, put⟩ := NumberField.store_eq_ok selected stored
    cases fraction : numeral.millis? with
    | none =>
        rw [fraction] at put
        rw [put]
        exact HasNoMillis.hasNormalSeconds unread
    | some millis =>
        have fits := small millis fraction
        have sign := value_mul_signedMillis numeral millis
        have size : (numeral.signedMillis millis).natAbs = millis := by
          unfold Numeral.signedMillis
          split <;> omega
        rw [fraction] at put
        have seconds : after.amount .seconds = .ofInt numeral.value := by rw [put]; rfl
        have thousandths : after.amount .millis = .ofInt (numeral.signedMillis millis) := by
          rw [put]; rfl
        rw [HasNormalSeconds, seconds, thousandths, Int32.toInt_ofInt_of_le least greatest,
          Int32.toInt_ofInt_of_le (by omega) (by omega)]
        exact ⟨by omega, sign⟩

theorem isoElements_eq_append :
    isoElements = (.literal ⟨.given, "P"⟩ :: (isoDateUnits.map isoNumber ++
      .separator isoSeparator :: isoTimeUnits.map isoNumber)) ++ [.number isoSeconds] := rfl

theorem parse_isoElements_establishes (settings : ParseSettings) {start cursor : Cursor}
    {state : ParseState}
    (read : Element.parse settings start {} (.composite isoElements) = (.advanced cursor, state)) :
    HasNormalSeconds state.bucket := by
  rw [Element.parse, isoElements_eq_append] at read
  refine Element.parseFrom_establishes ?keep ?plain (isoSeconds_establishes settings) read rfl
  case keep =>
    have units {units : List (PeriodField × Affix)} (others : ∀ entry ∈ units, entry.1 ≠ .millis) :
        ∀ element ∈ units.map isoNumber, element.Keeps settings HasNoMillis := by
      intro element member
      obtain ⟨entry, among, rfl⟩ := List.mem_map.mp member
      exact isoNumber_keeps settings (others entry among)
    refine List.forall_mem_cons.mpr ⟨Element.keeps_literal settings _ _, ?_⟩
    refine List.forall_mem_append.mpr ⟨units (by decide), ?_⟩
    exact List.forall_mem_cons.mpr ⟨Element.keeps_separator settings _ _, units (by decide)⟩
  case plain => exact fun between same => Element.not_isSeparator_number _ ⟨between, same⟩

theorem isNormal_of_parse (handle : Nat) {type : PeriodType} {text : String} {period : Period}
    (read : ((iso handle).withParseType type).parse text = .ok period) : period.IsNormal type := by
  obtain ⟨bucket, whole, made⟩ := (parse_eq_ok_iff (parser?_iso handle type)).mp read
  obtain ⟨typed, amounts, known⟩ := Bucket.toPeriod_eq_ok_iff.mp made
  obtain ⟨start, cursor, state, taken, rfl⟩ := parseWhole_eq_ok whole
  obtain ⟨small, sign⟩ := parse_isoElements_establishes _ taken
  have amount (field : PeriodField) : period.get field = state.bucket.amount field :=
    amounts field
  refine { typed, known := fun field unsupported => ?_, small := ?_, sign := ?_ }
  · by_contra other
    have supported : type.supports field = true := known field other
    rw [unsupported] at supported
    cases supported
  · rw [show period.millis = _ from amount .millis]
    exact small
  · rw [show period.seconds = _ from amount .seconds, show period.millis = _ from amount .millis]
    exact sign

/-! ## The round trip -/

/-- A normal period of any type is read back from its ISO form as it is. A period of all units is
read back with the seconds and milliseconds that their total makes, and refused if the seconds do not
fit. Every text that is read makes a normal period. -/
theorem parse_print_iso (handle : Nat) :
    (∀ type period, Period.IsNormal type period →
      ∃ text, (iso handle).print period = .ok text ∧
        ((iso handle).withParseType type).parse text = .ok period) ∧
    (∀ period, period.type = .standard →
      let total := period.seconds.toInt * 1000 + period.millis.toInt
      ∃ text, (iso handle).print period = .ok text ∧
        if -2 ^ 31 ≤ total.tdiv 1000 ∧ total.tdiv 1000 < 2 ^ 31 then
          (iso handle).parse text =
            .ok { period with
              seconds := .ofInt (total.tdiv 1000), millis := .ofInt (total.tmod 1000) }
        else
          ∃ failure, (iso handle).parse text = .error (.ofFailure failure) ∧
            failure.kind = .valueOutOfRange) ∧
    (∀ type text period, ((iso handle).withParseType type).parse text = .ok period →
      Period.IsNormal type period) := by
  refine ⟨fun type period normal => ?normal, fun period standard => ?total, fun _ _ _ read =>
    isNormal_of_parse handle read⟩
  case normal =>
    have seconds := normal.tdiv_totalMillis
    have read := parse_print_normalized handle normal.knowsUnits
      ⟨seconds ▸ period.seconds.le_toInt, seconds ▸ period.seconds.toInt_lt⟩
      (normal.normalized_eq.symm ▸ normal.knowsUnits)
    rw [normal.normalized_eq, normal.typed] at read
    exact read
  case total =>
    have supported : ∀ field, PeriodType.standard.supports field = true := by
      intro field
      cases field <;> rfl
    have known : period.KnowsUnits := fun field _ => standard ▸ supported field
    have same : iso handle = (iso handle).withParseType period.type := by
      rw [standard]
      rfl
    intro total
    by_cases inRange : -2 ^ 31 ≤ total.tdiv 1000 ∧ total.tdiv 1000 < 2 ^ 31
    · obtain ⟨text, printed, read⟩ := parse_print_normalized handle known inRange
        fun field _ => standard ▸ supported field
      rw [← same] at read
      exact ⟨text, printed, (if_pos inRange).symm ▸ read⟩
    · have outside : total.tdiv 1000 < -2 ^ 31 ∨ 2 ^ 31 ≤ total.tdiv 1000 := by omega
      obtain ⟨text, failure, printed, read, kind⟩ := parse_print_outOfRange handle known outside
      rw [← same] at read
      exact ⟨text, printed, (if_neg inRange).symm ▸ ⟨failure, read, kind⟩⟩

/-- A second and a half less than nothing, the seconds one too many for 32 bits, and a text that does
not write its thousandths out. -/
theorem parse_print_iso_extremes :
    (∃ text, (iso 0).print { Period.zeroOf .time with seconds := -1, millis := -500 } = .ok text ∧
      ((iso 0).withParseType .time).parse text =
        .ok { Period.zeroOf .time with seconds := -1, millis := -500 }) ∧
    (∃ text failure,
      (iso 0).print { Period.zeroOf .standard with seconds := 2147483647, millis := 1000 } =
        .ok text ∧
      (iso 0).parse text = .error (.ofFailure failure) ∧ failure.kind = .valueOutOfRange) ∧
    Period.IsNormal .time { Period.zeroOf .time with seconds := -1, millis := -500 } := by
  obtain ⟨normal, total, any⟩ := parse_print_iso 0
  refine ⟨normal .time _ ?normal, ?beyond, any .time "PT-1.5S" _ (by decide +kernel)⟩
  case normal =>
    refine ⟨rfl, fun field => ?_, by decide, by decide⟩
    cases field <;> decide
  case beyond =>
    obtain ⟨text, printed, read⟩ :=
      total { Period.zeroOf .standard with seconds := 2147483647, millis := 1000 } rfl
    rw [if_neg (by decide)] at read
    obtain ⟨failure, refused, kind⟩ := read
    exact ⟨text, failure, printed, refused, kind⟩

end PeriodFormatter

end ChronoText
