import ChronoText.Formatter.PeriodBuilder
import ChronoText.Proofs.Parsing.Elements
import ChronoText.Proofs.Parsing.PeriodParts
import ChronoText.Proofs.Parsing.Resolution
import ChronoText.Proofs.Parsing.UnitAmounts

/-! Periods in the ISO form are read back. The letter behind a number and the `T` in front of the
time units tell the units apart. Seconds and milliseconds are printed as one number of thousandths,
so that they come back as the quotient and the remainder of their sum. -/

set_option autoImplicit false

namespace ChronoText

open ChronoText.NumberField (recordUnits)

/-! ## Seconds with milliseconds -/

namespace Period

def totalMillis (period : Period) : Int :=
  period.seconds.toInt * 1000 + period.millis.toInt

/-- The period with the seconds and milliseconds that its total makes. -/
def normalized (period : Period) : Period :=
  { period with
    seconds := .ofInt (period.totalMillis.tdiv 1000)
    millis := .ofInt (period.totalMillis.tmod 1000) }

theorem tdiv_thousand (total : Int) :
    total.tdiv 1000 =
      if total < 0 then -((total.natAbs / 1000 : Nat) : Int) else (total.natAbs / 1000 : Nat) := by
  split
  · next negative =>
      obtain ⟨size, rfl⟩ : ∃ size : Nat, total = -size := ⟨total.natAbs, by omega⟩
      rw [Int.neg_tdiv, Int.natAbs_neg, Int.natAbs_natCast]
      rfl
  · next positive =>
      obtain ⟨size, rfl⟩ : ∃ size : Nat, total = size := ⟨total.natAbs, by omega⟩
      rfl

theorem tmod_thousand (total : Int) :
    total.tmod 1000 =
      if total < 0 then -((total.natAbs % 1000 : Nat) : Int) else (total.natAbs % 1000 : Nat) := by
  have division := Int.tmod_def total 1000
  have whole := tdiv_thousand total
  split at whole
  · next negative =>
      rw [if_pos negative]
      omega
  · next positive =>
      rw [if_neg positive]
      omega

end Period

namespace PrintedNumber

structure StandsFor (printed : PrintedNumber) (total : Int) : Prop where
  value : printed.value = total.tdiv 1000
  millis : ∀ millis ∈ printed.millis?,
    printed.signedMillis millis = total.tmod 1000 ∧ total.tmod 1000 ≠ 0
  whole : printed.millis? = none → total.tmod 1000 = 0

theorem ofMillis_standsFor (total : Int) : (ofMillis total).StandsFor total := by
  have quotient := Period.tdiv_thousand total
  have remainder := Period.tmod_thousand total
  refine ⟨?value, ?millis, ?whole⟩
  case value =>
    rw [quotient, PrintedNumber.value]
    simp only [ofMillis, decide_eq_true_eq]
  case millis =>
    intro millis member
    simp only [ofMillis] at member
    split at member
    · cases member
    · next some =>
        cases member
        constructor
        · rw [remainder, signedMillis]
          simp only [ofMillis, decide_eq_true_eq]
        · rw [remainder]
          split <;> omega
  case whole =>
    intro none
    simp only [ofMillis] at none
    split at none
    · next zero =>
        rw [remainder, zero]
        split <;> rfl
    · cases none

theorem ofInt_standsFor (seconds : Int) : (ofInt seconds).StandsFor (seconds * 1000) where
  value := by
    rw [value_ofInt, Int.mul_tdiv_cancel seconds (by decide)]
  millis := fun _ absurd => nomatch absurd
  whole := fun _ => Int.mul_tmod_left seconds 1000

end PrintedNumber

namespace PeriodFormatter

/-! ## The elements -/

/-- The units of the ISO form; milliseconds are a part of the seconds. -/
def isoFields : PeriodFieldSet :=
  .ofList [.years, .months, .weeks, .days, .hours, .minutes, .seconds]

def isoDateUnits : List (PeriodField × Affix) :=
  [(.years, .simple "Y"), (.months, .simple "M"), (.weeks, .simple "W"), (.days, .simple "D")]

def isoTimeUnits : List (PeriodField × Affix) :=
  [(.hours, .simple "H"), (.minutes, .simple "M")]

def isoNumber (entry : PeriodField × Affix) : Element :=
  .number (.ofUnit entry.1 isoFields entry.2 false)

/-- The seconds with the milliseconds as their fraction. -/
def isoSeconds : NumberField :=
  .ofUnit .seconds isoFields (.simple "S") true

def isoSeparator : Separator := ⟨"T", "T", .ifFieldsAfter⟩

def isoElements : List Element :=
  .literal ⟨.given, "P"⟩ :: (isoDateUnits.map isoNumber ++
    .separator isoSeparator :: (isoTimeUnits.map isoNumber ++ [.number isoSeconds]))

theorem parser?_iso (handle : Nat) (type : PeriodType) :
    ((iso handle).withParseType type).parser? = some ⟨handle, isoElements⟩ := rfl

theorem print_isoElements_ne_nil (period : Period) :
    Element.print period.printContext (.composite isoElements) ≠ [] := by
  simp [isoElements, Element.print, Element.printFrom, Literal.print, Literal.resolve]

variable {period : Period}

/-! ## What the seconds print -/

theorem printed?_isoSeconds (known : period.KnowsUnits) :
    isoSeconds.printed? period.printContext =
      if period.millis ≠ 0 then some (.ofMillis period.totalMillis)
      else if ZeroPolicy.rarelyLast.prints .seconds period isoFields then
        some (.ofInt period.seconds.toInt)
      else none := by
  have printed : isoSeconds.printed? period.printContext =
      isoSeconds.printedUnit? .seconds period := rfl
  rw [printed, NumberField.printedUnit?]
  by_cases zero : period.millis = 0
  · simp [zero, isoSeconds, NumberField.ofUnit, Period.get]
    rfl
  · have supported := known .millis zero
    simp [zero, supported, isoSeconds, NumberField.ofUnit, Period.totalMillis]

theorem totalMillis_of_millis_eq_zero (zero : period.millis = 0) :
    period.totalMillis = period.seconds.toInt * 1000 := by
  rw [Period.totalMillis, zero]
  exact Int.add_zero _

theorem isoSeconds_standsFor (known : period.KnowsUnits) {printed : PrintedNumber}
    (shown : isoSeconds.printed? period.printContext = some printed) :
    printed.IsReadable true ∧ printed.StandsFor period.totalMillis := by
  rw [printed?_isoSeconds known] at shown
  split at shown
  · cases shown
    have seconds := PrintedNumber.natAbs_toInt_le period.seconds
    have millis := PrintedNumber.natAbs_toInt_le period.millis
    refine ⟨PrintedNumber.isReadable_ofMillis ?_, PrintedNumber.ofMillis_standsFor _⟩
    unfold Period.totalMillis
    omega
  · next zero =>
      split at shown
      · cases shown
        rw [totalMillis_of_millis_eq_zero (not_not.mp zero)]
        exact ⟨PrintedNumber.isReadable_ofInt _ true, PrintedNumber.ofInt_standsFor _⟩
      · cases shown

theorem totalMillis_of_unprinted (known : period.KnowsUnits)
    (hidden : isoSeconds.printed? period.printContext = none) : period.totalMillis = 0 := by
  rw [printed?_isoSeconds known] at hidden
  split at hidden
  · cases hidden
  · next zero =>
      split at hidden
      · cases hidden
      · next prints =>
          have none := NumberField.get_eq_zero_of_not_prints known prints
          have none : period.seconds = 0 := none
          rw [totalMillis_of_millis_eq_zero (not_not.mp zero), none]
          rfl

/-! ## Reading the seconds -/

variable {settings : ParseSettings}

theorem ofInt_ne_zero {value : Int} (least : -2 ^ 31 ≤ value) (greatest : value < 2 ^ 31)
    (other : value ≠ 0) : Int32.ofInt value ≠ 0 := by
  intro zero
  apply other
  rw [← Int32.toInt_ofInt_of_le least greatest, zero]
  rfl

/-- What the seconds put into a bucket without seconds and milliseconds are those of the total. -/
theorem amount_isoSeconds (known : period.KnowsUnits) {bucket : Bucket}
    (noSeconds : bucket.periodFields .seconds = none)
    (noMillis : bucket.periodFields .millis = none) (field : PeriodField) :
    (isoSeconds.recordUnit .seconds period bucket).amount field =
      if field = .seconds ∨ field = .millis then period.normalized.get field
      else bucket.amount field := by
  unfold NumberField.recordUnit
  cases shown : isoSeconds.printed? period.printContext with
  | none =>
      have total := totalMillis_of_unprinted known shown
      have seconds : period.normalized.seconds = 0 := by
        rw [Period.normalized, total]
        rfl
      have millis : period.normalized.millis = 0 := by
        rw [Period.normalized, total]
        rfl
      cases field <;>
        simp [Bucket.amount, noSeconds, noMillis, Period.get, seconds, millis]
  | some printed =>
      obtain ⟨_, stands⟩ := isoSeconds_standsFor known shown
      cases fraction : printed.millis? with
      | none =>
          have remainder := stands.whole fraction
          cases field <;>
            simp [Bucket.amount, NumberField.putUnit, fraction, stands.value, noMillis, Period.get,
              Period.normalized, remainder]
      | some thousandths =>
          obtain ⟨remainder, _⟩ := stands.millis thousandths fraction
          cases field <;>
            simp [Bucket.amount, NumberField.putUnit, fraction, stands.value, remainder, Period.get,
              Period.normalized]

/-- The seconds read back where their quotient fits and what they make is known to the type. -/
theorem isoSeconds_readsBack (culture : settings.culture = .invariant)
    (type : settings.periodType = period.type) (known : period.KnowsUnits)
    (inRange : -2 ^ 31 ≤ period.totalMillis.tdiv 1000 ∧ period.totalMillis.tdiv 1000 < 2 ^ 31)
    (normal : period.normalized.KnowsUnits) :
    Element.ReadsBack settings period.printContext [] (.number isoSeconds)
      (isoSeconds.recordUnit .seconds period) := by
  refine NumberField.readsBack_ofUnit culture rfl ?there fun _ => rfl
  case there =>
    intro printed shown
    obtain ⟨readable, stands⟩ := isoSeconds_standsFor known shown
    refine ⟨readable, Affix.readsBefore_simple "S" [], fun bucket => ?_⟩
    refine NumberField.store_ofUnit readable ?_ ?_ ?_ bucket
    · rw [stands.value]
      exact inRange
    · rw [stands.value, type]
      intro other
      exact normal .seconds (ofInt_ne_zero inRange.1 inRange.2 other)
    · intro millis member
      obtain ⟨_, other⟩ := stands.millis millis member
      have small := Period.tmod_thousand period.totalMillis
      rw [type]
      exact normal .millis (ofInt_ne_zero (by split at small <;> omega)
        (by split at small <;> omega) other)

/-! ## Reading all elements -/

structure LettersDiffer (units : List (PeriodField × Affix)) : Prop where
  simple : ∀ entry ∈ units, ∃ letter, entry.2 = .simple letter
  clear : ∀ entry ∈ units, entry.2.startsNoNumber = true
  diverge : units.Pairwise fun first second => first.2.divergesFromAffix second.2 = true

theorem LettersDiffer.tail {entry : PeriodField × Affix} {units : List (PeriodField × Affix)}
    (differ : LettersDiffer (entry :: units)) : LettersDiffer units where
  simple := (List.forall_mem_cons.mp differ.simple).2
  clear := (List.forall_mem_cons.mp differ.clear).2
  diverge := (List.pairwise_cons.mp differ.diverge).2

theorem stopsIn_isoNumbers {affix : Affix} {before : Nat} {units : List (PeriodField × Affix)}
    {rest : List Element} (clear : ∀ entry ∈ units, entry.2.startsNoNumber = true)
    (diverge : ∀ entry ∈ units, affix.divergesFromAffix entry.2 = true)
    (stops : affix.StopsIn before rest) : affix.StopsIn before (units.map isoNumber ++ rest) := by
  induction units with
  | nil => exact stops
  | cons entry units ih =>
      obtain ⟨ownClear, othersClear⟩ := List.forall_mem_cons.mp clear
      obtain ⟨ownDiverge, othersDiverge⟩ := List.forall_mem_cons.mp diverge
      exact .unit ownClear ownDiverge (ih othersClear othersDiverge)

/-- Units side by side read back, whichever are printed, if their letters differ from each other and
from what is printed behind them. -/
theorem isoNumbers_legible (culture : settings.culture = .invariant)
    (type : settings.periodType = period.type) {left rest : List Element}
    {units : List (PeriodField × Affix)} {later : Bucket → Bucket} (differ : LettersDiffer units)
    (stops : ∀ entry ∈ units, ∀ before, entry.2.StopsIn before rest)
    (legible : ∀ before touched,
      LegibleUpTo settings period.printContext [] left before touched rest later)
    (before : Nat) (touched : Bool) :
    LegibleUpTo settings period.printContext [] left before touched (units.map isoNumber ++ rest)
      (later ∘ recordUnits isoFields period units) := by
  induction units generalizing before touched with
  | nil => exact legible before touched
  | cons entry units ih =>
      obtain ⟨clear, othersClear⟩ := List.forall_mem_cons.mp differ.clear
      obtain ⟨diverge, _⟩ := List.pairwise_cons.mp differ.diverge
      obtain ⟨⟨letter, simple⟩, _⟩ := List.forall_mem_cons.mp differ.simple
      obtain ⟨ownStops, othersStop⟩ := List.forall_mem_cons.mp stops
      rw [NumberField.recordUnits_cons, ← Function.comp_assoc]
      refine .element (Element.not_isSeparator_number _) ?_ (ih differ.tail othersStop _ _)
      refine NumberField.readsBack_amount culture type clear (fun _ => ?_) fun _ => ?_
      · rw [simple]
        exact Affix.readsBefore_simple letter _
      · rw [List.append_nil]
        exact (stopsIn_isoNumbers othersClear diverge (ownStops _)).distance?_printFrom clear

theorem isoNumbers_areParts (units : List (PeriodField × Affix)) {rest : List Element}
    (parts : ∀ element ∈ rest, element.IsPeriodPart) :
    ∀ element ∈ units.map isoNumber ++ rest, element.IsPeriodPart := by
  intro element member
  rcases List.mem_append.mp member with number | other
  · obtain ⟨entry, _, rfl⟩ := List.mem_map.mp number
    exact .unit
  · exact parts element other

/-- The `T` is found where it was printed, and it was printed where a time unit follows. -/
theorem isoSeparator_readsBack (touched : Bool) (before : Nat) {behind : List Element}
    (parts : ∀ element ∈ behind, element.IsPeriodPart) :
    isoSeparator.ReadsBack touched
      (isoSeparator.textBetween? before (Element.fieldCountOf period.printContext behind))
      (Element.printFrom period.printContext 0 behind) [] := by
  have text : "T" ≠ "" := by decide
  have found : isoSeparator.FindsTexts := Separator.findsTexts_of_same text .ifFieldsAfter
  refine Separator.readsBack_between ?_ found ?_ parts
  · intro before
    cases before
  · intro always
    cases always

theorem isoDateUnits_differ : LettersDiffer isoDateUnits where
  simple := by
    intro entry member
    simp only [isoDateUnits, List.mem_cons, List.not_mem_nil, or_false] at member
    rcases member with rfl | rfl | rfl | rfl <;> exact ⟨_, rfl⟩
  clear := by decide
  diverge := by decide +kernel

theorem isoTimeUnits_differ : LettersDiffer isoTimeUnits where
  simple := by
    intro entry member
    simp only [isoTimeUnits, List.mem_cons, List.not_mem_nil, or_false] at member
    rcases member with rfl | rfl <;> exact ⟨_, rfl⟩
  clear := by decide
  diverge := by decide +kernel

def recordIsoUnits (period : Period) : Bucket → Bucket :=
  recordUnits isoFields period (isoDateUnits ++ isoTimeUnits)

/-- The ISO form of a period reads back, up to what is left of the seconds. -/
theorem isoElements_legible (culture : settings.culture = .invariant)
    (exact : settings.styles.innerBlank = false) (type : settings.periodType = period.type)
    {left : List Element} {later : Bucket → Bucket}
    (seconds : ∀ before touched,
      LegibleUpTo settings period.printContext [] left before touched [.number isoSeconds] later) :
    LegibleUpTo settings period.printContext [] left 0 false isoElements
      (later ∘ recordIsoUnits period) := by
  have secondsPart : ∀ element ∈ [Element.number isoSeconds], element.IsPeriodPart := by
    intro element member
    rw [List.mem_singleton.mp member]
    exact .unit
  have timeParts := isoNumbers_areParts isoTimeUnits secondsPart
  have timeStops : ∀ entry ∈ isoTimeUnits, ∀ before,
      entry.2.StopsIn before [.number isoSeconds] := by
    have diverge : ∀ entry ∈ isoTimeUnits, entry.2.divergesFromAffix (.simple "S") = true := by
      decide +kernel
    exact fun entry member before => .unit rfl (diverge entry member) .nil
  have dateStops : ∀ entry ∈ isoDateUnits, ∀ before, entry.2.StopsIn before
      (.separator isoSeparator :: (isoTimeUnits.map isoNumber ++ [.number isoSeconds])) := by
    have diverge : ∀ entry ∈ isoDateUnits, entry.2.divergesFrom ['T'] = true := by
      decide +kernel
    exact fun entry member before => .separator rfl rfl rfl (diverge entry member) timeParts
  -- From the end on: what is left, the time units, the `T`, and the date units.
  have time := isoNumbers_legible culture type isoTimeUnits_differ timeStops
    seconds
  have date := isoNumbers_legible culture type isoDateUnits_differ dateStops
    fun before touched => .separator (isoSeparator_readsBack touched before timeParts) (time 0 false)
  have letter (rest : List Char) :
      Element.ReadsBack settings period.printContext rest (.literal ⟨.given, "P"⟩) id :=
    Literal.readsBack culture ⟨.given, "P"⟩ exact rest
  have read : LegibleUpTo settings period.printContext [] left 0 false isoElements
      (((later ∘ recordUnits isoFields period isoTimeUnits)
        ∘ recordUnits isoFields period isoDateUnits) ∘ id) :=
    .element (Element.not_isSeparator_literal _) (letter _) (date _ _)
  exact read

/-! ## The period that is read -/

theorem units_nodup : ((isoDateUnits ++ isoTimeUnits).map (·.1)).Nodup := by
  decide

theorem toPeriod_iso (known : period.KnowsUnits) (normal : period.normalized.KnowsUnits) :
    (isoSeconds.recordUnit .seconds period (recordIsoUnits period .empty)).toPeriod period.type =
      .ok period.normalized := by
  rw [Bucket.toPeriod_eq_ok_iff]
  refine ⟨rfl, fun field => ?_, normal⟩
  have before : (recordIsoUnits period .empty).amount field = _ :=
    NumberField.amount_recordUnits known units_nodup (fun _ _ => rfl) field
  have unread (field : PeriodField) (other : field ∉ (isoDateUnits ++ isoTimeUnits).map (·.1)) :
      (recordIsoUnits period .empty).periodFields field = none :=
    NumberField.periodFields_recordUnits_of_not_mem .empty other
  have amount := amount_isoSeconds known (unread .seconds (by decide)) (unread .millis (by decide))
    field
  refine Eq.trans ?_ amount.symm
  split
  · rfl
  · next others =>
      refine Eq.trans ?_ before.symm
      rw [if_pos]
      · revert others
        cases field <;> simp [Period.get, Period.normalized]
      · revert others
        cases field <;> decide

/-- A period is read back from its ISO form, with the seconds and the milliseconds that their total
makes. -/
theorem parse_print_normalized (handle : Nat) (known : period.KnowsUnits)
    (inRange : -2 ^ 31 ≤ period.totalMillis.tdiv 1000 ∧ period.totalMillis.tdiv 1000 < 2 ^ 31)
    (normal : period.normalized.KnowsUnits) :
    ∃ text, (iso handle).print period = .ok text ∧
      ((iso handle).withParseType period.type).parse text = .ok period.normalized := by
  let settings := ((iso handle).withParseType period.type).parseSettings
  have seconds (before : Nat) (touched : Bool) :
      Legible settings period.printContext [] before touched [.number isoSeconds]
        (isoSeconds.recordUnit .seconds period) := by
    have read : Legible settings period.printContext [] before touched [.number isoSeconds]
        (id ∘ isoSeconds.recordUnit .seconds period) := by
      refine .element (Element.not_isSeparator_number _) ?_ .reached
      rw [Element.printFrom]
      exact isoSeconds_readsBack rfl rfl known inRange normal
    exact read
  have legible : Legible settings period.printContext [] 0 false isoElements
      (isoSeconds.recordUnit .seconds period ∘ recordIsoUnits period) :=
    isoElements_legible rfl rfl rfl seconds
  exact ⟨_, rfl, parse_of_legible (parser?_iso handle period.type) legible
    (print_isoElements_ne_nil period) (toPeriod_iso known normal)⟩

end PeriodFormatter

end ChronoText
