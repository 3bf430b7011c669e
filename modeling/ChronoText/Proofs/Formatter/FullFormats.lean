import ChronoText.Proofs.Formatter.Reachable
import ChronoText.Proofs.Parsing.PeriodParts
import ChronoText.Proofs.Parsing.UnitAmounts

/-! Full formats, which print every unit they have, also one that is zero. Such a format needs no
affixes to tell its units apart: they follow each other in the order of the format, and a separator
that starts with no digit ends the number before it. -/

set_option autoImplicit false

namespace ChronoText

/-- A unit of a full format with the settings that hold for it. -/
structure FullUnit where
  field : PeriodField
  minPrintedDigits : Nat := 1
  maxParsedDigits : Nat := 10
  rejectSigned : Bool := false
  deriving DecidableEq

/-- A unit behind a separator. -/
structure JoinedUnit extends FullUnit where
  separator : String
  deriving DecidableEq

/-- The first unit of a full format and those that are joined to it. -/
structure FullFormat where
  first : FullUnit
  others : List JoinedUnit
  deriving DecidableEq

namespace FullUnit

/-- The settings of the unit, and the unit. -/
def operations (unit : FullUnit) : List PeriodBuilder.Operation :=
  [.minPrintedDigits unit.minPrintedDigits, .maxParsedDigits unit.maxParsedDigits,
    .rejectSigned unit.rejectSigned, .unit unit.field]

def number (present : PeriodFieldSet) (unit : FullUnit) : NumberField where
  selector := .period unit.field
  minDigits := unit.minPrintedDigits
  maxParsedDigits := max unit.maxParsedDigits unit.minPrintedDigits
  zeroPolicy := .always
  present
  rejectSigned := unit.rejectSigned

def element (present : PeriodFieldSet) (unit : FullUnit) : Element :=
  .number (unit.number present)

def amount (unit : FullUnit) (period : Period) : Int :=
  (period.get unit.field).toInt

/-- The amount of the unit, filled up with zeros behind its sign. -/
def text (period : Period) (unit : FullUnit) : List Char :=
  NumberField.signText (decide (unit.amount period < 0)) ++
    Text.padded '0' unit.minPrintedDigits (unit.amount period).natAbs

/-- The amount of the unit has no more digits than are read, and no sign where that is refused. -/
structure Fits (unit : FullUnit) (period : Period) : Prop where
  digits : Text.digitCount (unit.amount period).natAbs ≤ unit.maxParsedDigits
  sign : unit.rejectSigned = true → 0 ≤ unit.amount period

end FullUnit

namespace JoinedUnit

def operations (unit : JoinedUnit) : List PeriodBuilder.Operation :=
  .separator unit.separator :: unit.toFullUnit.operations

def between (unit : JoinedUnit) : Separator :=
  ⟨unit.separator, unit.separator, .always⟩

def elements (present : PeriodFieldSet) (unit : JoinedUnit) : List Element :=
  [.separator unit.between, unit.toFullUnit.element present]

def text (period : Period) (unit : JoinedUnit) : List Char :=
  unit.separator.toList ++ unit.toFullUnit.text period

/-- The separator has a text, and it starts with no digit. -/
def IsApart (unit : JoinedUnit) : Prop :=
  ∃ c ∈ unit.separator.toList.head?, c.isDigit = false

end JoinedUnit

namespace FullFormat

def units (format : FullFormat) : List FullUnit :=
  format.first :: format.others.map (·.toFullUnit)

def fields (format : FullFormat) : List PeriodField :=
  format.units.map (·.field)

/-- What makes the format out of an empty builder. A setting holds until it is changed, so nothing
is lost by giving every unit all of its settings. -/
def operations (format : FullFormat) : List PeriodBuilder.Operation :=
  .zeroPolicy .always :: (format.first.operations ++ format.others.flatMap (·.operations))

def elements (present : PeriodFieldSet) (format : FullFormat) : List Element :=
  format.first.element present :: format.others.flatMap (·.elements present)

/-- The texts of the units with the separators between them. -/
def text (period : Period) (format : FullFormat) : List Char :=
  format.first.text period ++ format.others.flatMap (·.text period)

end FullFormat

theorem FullUnit.not_isSeparator_element {present : PeriodFieldSet} (unit : FullUnit) :
    ¬ (unit.element present).IsSeparator :=
  Element.not_isSeparator_number _

/-! ## Building -/

/-- The builder has appended the elements, and whatever unit comes next will always be printed. -/
structure PeriodBuilder.IsFull (builder : PeriodBuilder) (elements : List Element) : Prop where
  elements : builder.elements = elements
  zeroPolicy : builder.zeroPolicy = .always
  waiting : builder.waiting? = none

section Building

variable {builder : PeriodBuilder} {elements : List Element}

theorem FullUnit.operations_isFull (unit : FullUnit) (full : builder.IsFull elements) :
    ∃ next, unit.operations.foldlM PeriodBuilder.perform builder = .ok next ∧
      next.IsFull (elements ++ [unit.element .empty]) := by
  obtain ⟨own, policy, free⟩ := full
  refine ⟨_, rfl, ?_⟩
  obtain ⟨_, _, _, _, _, _⟩ := builder
  cases own
  cases policy
  cases free
  exact ⟨rfl, rfl, rfl⟩

theorem JoinedUnit.IsApart.given {unit : JoinedUnit} (apart : unit.IsApart) :
    unit.separator ≠ "" := by
  obtain ⟨c, first, _⟩ := apart
  intro empty
  rw [empty] at first
  cases first

theorem JoinedUnit.operations_isFull {unit : JoinedUnit} (given : unit.separator ≠ "")
    {last : Element} (ends : elements.getLast? = some last) (plain : ¬ last.IsSeparator)
    (full : builder.IsFull elements) :
    ∃ next, unit.operations.foldlM PeriodBuilder.perform builder = .ok next ∧
      next.IsFull (elements ++ unit.elements .empty) := by
  obtain ⟨own, policy, free⟩ := full
  have some : unit.between.text ≠ "" := given
  have appended : builder.perform (.separator unit.separator) =
      .ok (builder.append (.separator unit.between)) :=
    PeriodBuilder.addSeparator_concat some free (own ▸ ends) plain
  have separated : (builder.append (.separator unit.between)).IsFull
      (elements ++ [.separator unit.between]) :=
    ⟨congrArg (· ++ _) own, policy, free⟩
  obtain ⟨next, performed, ready⟩ := unit.toFullUnit.operations_isFull separated
  refine ⟨next, ?_, ?_⟩
  · rw [operations, List.foldlM_cons, appended]
    exact performed
  · rw [List.append_assoc] at ready
    exact ready

theorem JoinedUnit.foldlM_isFull {units : List JoinedUnit}
    (given : ∀ unit ∈ units, unit.separator ≠ "") {last : Element}
    (ends : elements.getLast? = some last) (plain : ¬ last.IsSeparator)
    (full : builder.IsFull elements) :
    ∃ next, (units.flatMap (·.operations)).foldlM PeriodBuilder.perform builder = .ok next ∧
      next.IsFull (elements ++ units.flatMap (·.elements .empty)) := by
  induction units generalizing builder elements last with
  | nil => exact ⟨builder, rfl, by rwa [List.flatMap_nil, List.append_nil]⟩
  | cons unit units ih =>
      obtain ⟨own, others⟩ := List.forall_mem_cons.mp given
      obtain ⟨between, performed, ready⟩ := operations_isFull own ends plain full
      have now : (elements ++ unit.elements .empty).getLast? =
          some (unit.toFullUnit.element .empty) := by
        rw [JoinedUnit.elements, List.append_cons]
        exact List.getLast?_concat ..
      obtain ⟨next, later, finished⟩ := ih others now (FullUnit.not_isSeparator_element _) ready
      refine ⟨next, ?_, ?_⟩
      · rw [List.flatMap_cons, List.foldlM_append, performed]
        exact later
      · rwa [List.flatMap_cons, ← List.append_assoc]

theorem FullFormat.foldlM_isFull {format : FullFormat}
    (given : ∀ unit ∈ format.others, unit.separator ≠ "") :
    ∃ next, format.operations.foldlM PeriodBuilder.perform {} = .ok next ∧
      next.IsFull (format.elements .empty) := by
  have started : ({ zeroPolicy := .always } : PeriodBuilder).IsFull [] := ⟨rfl, rfl, rfl⟩
  obtain ⟨between, performed, ready⟩ := format.first.operations_isFull started
  obtain ⟨next, later, finished⟩ := JoinedUnit.foldlM_isFull given (List.getLast?_singleton ..)
    (FullUnit.not_isSeparator_element _) ready
  refine ⟨next, ?_, finished⟩
  have start : PeriodBuilder.perform {} (.zeroPolicy .always) =
      .ok { zeroPolicy := .always } := rfl
  rw [operations, List.foldlM_cons, start]
  show List.foldlM _ _ _ = _
  rw [List.foldlM_append, performed]
  exact later

/-! ## Finishing -/

theorem FullFormat.formatter_of_isFull {format : FullFormat}
    (full : builder.IsFull (format.elements .empty)) (handle : Nat) :
    ∃ present, builder.formatter handle =
      .ok { printer? := some ⟨handle, format.elements present⟩
            parser? := some ⟨handle, format.elements present⟩ } := by
  have others (present : PeriodFieldSet) :
      (format.others.flatMap (·.elements .empty)).map (PeriodBuilder.tell present) =
        format.others.flatMap (·.elements present) := by
    rw [List.map_flatMap]
    rfl
  have told : builder.finishedElements = format.elements (.ofList builder.units) := by
    rw [PeriodBuilder.finishedElements_eq, full.elements, elements, List.map_cons, others]
    rfl
  refine ⟨.ofList builder.units, ?_⟩
  rw [← told]
  simp only [PeriodBuilder.formatter, PeriodBuilder.tree, PeriodBuilder.requireNothingWaiting,
    full.waiting]
  rfl

end Building

/-! ## Printing -/

variable {period : Period} {present : PeriodFieldSet}

theorem FullUnit.print_element (unit : FullUnit) :
    Element.print period.printContext (unit.element present) = unit.text period := by
  have printed : (unit.number present).printed? period.printContext =
      some (.ofInt (unit.amount period)) := rfl
  rw [element, Element.print, NumberField.print, printed]
  simp only [NumberField.render, number, NumberField.affixText, PrintedNumber.ofInt,
    List.nil_append, List.append_nil]
  rfl

theorem FullUnit.fieldCount_element (unit : FullUnit) :
    Element.fieldCount period.printContext (unit.element present) = 1 := rfl

theorem FullUnit.printFrom_element (unit : FullUnit) (before : Nat) (rest : List Element) :
    Element.printFrom period.printContext before (unit.element present :: rest) =
      unit.text period ++ Element.printFrom period.printContext (before + 1) rest := by
  rw [Element.printFrom_element _ _ unit.not_isSeparator_element, print_element,
    fieldCount_element]

theorem FullUnit.text_ne_nil (unit : FullUnit) : unit.text period ≠ [] :=
  List.append_ne_nil_of_right_ne_nil _ (Text.padded_ne_nil _ _ _)

/-- Between units the separator is printed with the same text whatever their numbers are. -/
theorem JoinedUnit.textBetween?_between (unit : JoinedUnit) {before : Nat} (some : 0 < before)
    (rest : List Element) :
    unit.between.textBetween? before
        (Element.fieldCountOf period.printContext (unit.toFullUnit.element present :: rest)) =
      .some unit.separator := by
  have none : ¬ (before = 0 ∨ Element.fieldCountOf period.printContext
      (unit.toFullUnit.element present :: rest) = 0) := by
    rw [Element.fieldCountOf, FullUnit.fieldCount_element]
    omega
  unfold Separator.textBetween?
  simp only [between, none, if_false, ite_self]

theorem JoinedUnit.printFrom_elements (units : List JoinedUnit) {before : Nat} (some : 0 < before) :
    Element.printFrom period.printContext before (units.flatMap (·.elements present)) =
      units.flatMap (·.text period) := by
  induction units generalizing before with
  | nil => rw [List.flatMap_nil, Element.printFrom, List.flatMap_nil]
  | cons unit units ih =>
      rw [List.flatMap_cons, elements, List.cons_append, List.cons_append, List.nil_append,
        Element.printFrom_separator, unit.textBetween?_between some, Option.getD_some,
        FullUnit.printFrom_element, ih Nat.one_pos, List.flatMap_cons, text, List.append_assoc]

theorem FullFormat.print_elements (format : FullFormat) :
    Element.print period.printContext (.composite (format.elements present)) =
      format.text period := by
  rw [Element.print, elements, FullUnit.printFrom_element,
    JoinedUnit.printFrom_elements _ Nat.one_pos, text]

/-! ## Reading -/

variable {settings : ParseSettings}

/-- What the number of a unit puts into the bucket. -/
def FullUnit.record (period : Period) (unit : FullUnit) (bucket : Bucket) : Bucket :=
  bucket.setPeriodField unit.field (period.get unit.field)

namespace FullUnit

variable {unit : FullUnit}

/-- The numeral that is read of the text of the unit. -/
def numeral (period : Period) (unit : FullUnit) : NumberField.Numeral where
  negative := decide (unit.amount period < 0)
  digits := Text.paddedDigits unit.minPrintedDigits (unit.amount period).natAbs
  millis? := none
  length := (unit.text period).length

theorem value_numeral (unit : FullUnit) : (unit.numeral period).value = unit.amount period := by
  have small : (unit.amount period).natAbs ≤ Text.largestRead := by
    have bound := PrintedNumber.natAbs_toInt_le (period.get unit.field)
    unfold Text.largestRead
    exact bound.trans (by decide)
  simp only [NumberField.Numeral.value, numeral, Text.denoted_paddedDigits _ small,
    decide_eq_true_eq]
  split <;> omega

/-- The digits of a unit are taken up to the separator behind it, also where there are as many as a
number can have. -/
theorem readNumeral_text (fits : unit.Fits period) {rest : List Char}
    (stop : Text.startsWithDigit '0' rest = false) (position : Nat) :
    (unit.number present).readNumeral .invariant true none ⟨position, unit.text period ++ rest⟩ =
      .ok (unit.numeral period) := by
  have unsigned : unit.rejectSigned = true → decide (unit.amount period < 0) = false := by
    intro reject
    have least := fits.sign reject
    rw [decide_eq_false_iff_not]
    omega
  have start := Text.startsWithDigit_padded Text.isZeroDigit_ascii unit.minPrintedDigits
    (unit.amount period).natAbs rest
  have limit : (unit.number present).digitLimit =
      max unit.maxParsedDigits unit.minPrintedDigits := rfl
  have least : (unit.number present).minDigits = unit.minPrintedDigits := rfl
  have enough := fits.digits
  have read := NumberField.readNumeral_printed Culture.invariant_writesPlainNumbers
    (unit.number present) true none position (unit.amount period).natAbs
    (decide (unit.amount period < 0)) rest (fun _ => rfl) unsigned start rfl (by omega) (by omega)
    (.inl stop)
  have length : (NumberField.signText (decide (unit.amount period < 0))).length +
      (Text.paddedDigits unit.minPrintedDigits (unit.amount period).natAbs).length =
        (unit.text period).length := by
    rw [text, List.length_append, Text.length_padded, Text.length_paddedDigits]
  rw [text, List.append_assoc, read, numeral, ← length]
  rfl

theorem store_numeral (unit : FullUnit) (bucket : Bucket) :
    (unit.number present).store .standard (unit.numeral period) bucket =
      .ok (unit.record period bucket) := by
  have least := (period.get unit.field).le_toInt
  have greatest := (period.get unit.field).toInt_lt
  have within : ¬ (unit.amount period < -0x80000000 ∨ 0x80000000 ≤ unit.amount period) := by
    unfold amount
    omega
  have known : PeriodType.standard.supports unit.field = true := by
    cases unit.field <;> rfl
  have stored := NumberField.storeUnit_ofInt (unit.amount period) (fun _ => known) bucket
  have same : Int32.ofInt (unit.amount period) = period.get unit.field := Int32.ofInt_toInt _
  have none : (unit.numeral period).millis? = .none := rfl
  rw [same] at stored
  unfold NumberField.store
  simp only [number, value_numeral, within, if_false, stored, none, same, bind, Except.bind, pure,
    Except.pure, Except.mapError, record]

theorem readsBack (culture : settings.culture = .invariant)
    (type : settings.periodType = .standard) (fits : unit.Fits period) {rest : List Char}
    (stop : Text.startsWithDigit '0' rest = false) :
    Element.ReadsBack settings period.printContext rest (unit.element present)
      (unit.record period) := by
  intro position state
  have given : unit.text period ++ rest ≠ [] := List.append_ne_nil_of_left_ne_nil unit.text_ne_nil _
  have numeral : (unit.number present).readNumeral .invariant true none
      ⟨position, unit.text period ++ rest⟩ = .ok (unit.numeral period) :=
    readNumeral_text fits stop position
  have stored : (unit.number present).store .standard (unit.numeral period) state.bucket =
      .ok (unit.record period state.bucket) :=
    unit.store_numeral state.bucket
  have length : (unit.numeral period).length = (unit.text period).length := rfl
  have advanced := Cursor.advance_append position (unit.text period) rest
  have taken : (unit.number present).read settings ⟨position, unit.text period ++ rest⟩
      state.bucket =
        .ok (⟨position + Text.utf8Length (unit.text period), rest⟩,
          unit.record period state.bucket) := by
    simp only [number] at numeral stored ⊢
    simp only [NumberField.read, given, NumberField.isRequired, FieldSelector.periodField?, culture,
      type, numeral, stored, length, advanced, bind, Except.bind, pure, Except.pure,
      Except.mapError, if_false, Option.isNone_some, decide_true, Bool.or_true, Bool.true_or,
      Bool.not_true, Bool.false_and, Bool.false_eq_true]
  rw [print_element, element, Element.parse, NumberField.parse, taken]

end FullUnit

/-- What the numbers of units put into the bucket. -/
def FullUnit.recordAll (period : Period) (units : List FullUnit) (bucket : Bucket) : Bucket :=
  units.foldl (fun bucket unit => unit.record period bucket) bucket

/-- Joined units start with no digit, so they end the number in front of them. -/
theorem JoinedUnit.startsWithDigit_text {units : List JoinedUnit}
    (apart : ∀ unit ∈ units, unit.IsApart) :
    Text.startsWithDigit '0' (units.flatMap (·.text period)) = false := by
  cases units with
  | nil => rfl
  | cons unit units =>
      obtain ⟨c, first, other⟩ := apart unit List.mem_cons_self
      obtain ⟨rest, shape⟩ := List.head?_eq_some_iff.mp first
      rw [List.flatMap_cons, text, shape]
      simp only [List.cons_append, Text.startsWithDigit, List.head?_cons, Option.bind_some,
        Text.digitValue?_zero_eq_none other, Option.isSome_none]

/-- A unit reads back in front of the units that are joined to it, if those do. -/
theorem FullUnit.legible_before (culture : settings.culture = .invariant)
    (type : settings.periodType = .standard) {unit : FullUnit} (fits : unit.Fits period)
    {units : List JoinedUnit} (apart : ∀ unit ∈ units, unit.IsApart) {before : Nat} {touched : Bool}
    (joined : Legible settings period.printContext [] (before + 1) true
      (units.flatMap (·.elements present)) (recordAll period (units.map (·.toFullUnit)))) :
    Legible settings period.printContext [] before touched
      (unit.element present :: units.flatMap (·.elements present))
      (recordAll period (unit :: units.map (·.toFullUnit))) := by
  have text : (touched || !(Element.print period.printContext (unit.element present)).isEmpty) =
      true := by
    rw [print_element, List.isEmpty_eq_false_iff.mpr unit.text_ne_nil, Bool.not_false, Bool.or_true]
  have read : Legible settings period.printContext [] before touched
      (unit.element present :: units.flatMap (·.elements present))
      (recordAll period (units.map (·.toFullUnit)) ∘ unit.record period) := by
    refine .element unit.not_isSeparator_element ?own ?later
    case own =>
      rw [fieldCount_element, JoinedUnit.printFrom_elements _ before.succ_pos, List.append_nil]
      exact readsBack culture type fits (JoinedUnit.startsWithDigit_text apart)
    case later =>
      rw [fieldCount_element, text]
      exact joined
  exact read

theorem JoinedUnit.legible (culture : settings.culture = .invariant)
    (type : settings.periodType = .standard) {units : List JoinedUnit}
    (apart : ∀ unit ∈ units, unit.IsApart) (fit : ∀ unit ∈ units, unit.Fits period)
    {before : Nat} (some : 0 < before) :
    Legible settings period.printContext [] before true (units.flatMap (·.elements present))
      (FullUnit.recordAll period (units.map (·.toFullUnit))) := by
  induction units generalizing before with
  | nil => exact .reached
  | cons unit units ih =>
      obtain ⟨ownApart, othersApart⟩ := List.forall_mem_cons.mp apart
      obtain ⟨ownFits, othersFit⟩ := List.forall_mem_cons.mp fit
      rw [List.flatMap_cons, elements, List.cons_append, List.cons_append, List.nil_append]
      refine .separator ?between ?behind
      case between =>
        rw [unit.textBetween?_between some, FullUnit.printFrom_element]
        refine ⟨.inl rfl, List.append_ne_nil_of_left_ne_nil unit.toFullUnit.text_ne_nil _, ?_⟩
        intro position
        exact Separator.findsTexts_of_same ownApart.given .always _ (.inl rfl) position _
      case behind =>
        exact FullUnit.legible_before culture type ownFits othersApart
          (ih othersApart othersFit Nat.one_pos)

theorem FullFormat.legible (culture : settings.culture = .invariant)
    (type : settings.periodType = .standard) {format : FullFormat}
    (apart : ∀ unit ∈ format.others, unit.IsApart) (fit : ∀ unit ∈ format.units, unit.Fits period) :
    Legible settings period.printContext [] 0 false (format.elements present)
      (FullUnit.recordAll period format.units) := by
  obtain ⟨first, others⟩ := List.forall_mem_cons.mp fit
  have joined : ∀ unit ∈ format.others, unit.Fits period :=
    fun unit member => others _ (List.mem_map_of_mem member)
  exact FullUnit.legible_before culture type first apart
    (JoinedUnit.legible culture type apart joined Nat.one_pos)

/-- Each unit that was read holds its amount. -/
theorem FullUnit.periodFields_recordAll (units : List FullUnit) (bucket : Bucket)
    (field : PeriodField) :
    (recordAll period units bucket).periodFields field =
      if field ∈ units.map (·.field) then some (period.get field)
      else bucket.periodFields field := by
  induction units generalizing bucket with
  | nil => rfl
  | cons unit units ih =>
      refine (ih (unit.record period bucket)).trans ?_
      rw [record, Bucket.periodFields_setPeriodField, List.map_cons]
      by_cases own : field = unit.field
      · simp only [own, List.mem_cons_self, if_true, ite_self]
      · simp only [own, if_false, List.mem_cons, false_or]

theorem FullFormat.toPeriod_recordAll {format : FullFormat} (standard : period.type = .standard)
    (absent : ∀ field, field ∉ format.fields → period.get field = 0) :
    (FullUnit.recordAll period format.units .empty).toPeriod .standard = .ok period := by
  rw [Bucket.toPeriod_eq_ok_iff]
  refine ⟨standard, fun field => ?_, fun field _ => ?_⟩
  · rw [FullUnit.periodFields_recordAll]
    split
    · rfl
    · next missing => exact absent field missing
  · exact standard ▸ period.supports_of_standard standard field

namespace PeriodFormatter

/-- Formats that always print zeros read back what they print. Whatever the numbers of digits that
their units print and read are, the text is that of the units, filled up with zeros, with the
separators between them, and it is read back to the period. The separators start with no digit, the
amounts have no more digits than are read, and none is negative where signs are refused. -/
theorem parse_print_full (handle : Nat) {format : FullFormat}
    (apart : ∀ unit ∈ format.others, unit.IsApart) {period : Period}
    (standard : period.type = .standard)
    (absent : ∀ field, field ∉ format.fields → period.get field = 0)
    (fit : ∀ unit ∈ format.units, unit.Fits period) :
    ∃ builder formatter, format.operations.foldlM PeriodBuilder.perform {} = .ok builder ∧
      builder.formatter handle = .ok formatter ∧
      formatter.print period = .ok (.ofList (format.text period)) ∧
      formatter.parse (.ofList (format.text period)) = .ok period := by
  obtain ⟨builder, built, full⟩ :=
    FullFormat.foldlM_isFull fun unit member => (apart unit member).given
  obtain ⟨present, finished⟩ := FullFormat.formatter_of_isFull full handle
  let tree : FormatTree := ⟨handle, format.elements present⟩
  let formatter : PeriodFormatter := { printer? := some tree, parser? := some tree }
  have legible : Legible formatter.parseSettings period.printContext [] 0 false tree.elements
      (FullUnit.recordAll period format.units) := FullFormat.legible rfl rfl apart fit
  have text : tree.print period.printContext = format.text period := format.print_elements
  have given : Element.print period.printContext (.composite tree.elements) ≠ [] := by
    rw [format.print_elements]
    exact List.append_ne_nil_of_left_ne_nil format.first.text_ne_nil _
  have read : formatter.parse (.ofList (tree.print period.printContext)) = .ok period :=
    parse_of_legible rfl legible given (FullFormat.toPeriod_recordAll standard absent)
  rw [text] at read
  refine ⟨builder, formatter, built, finished, ?_, read⟩
  rw [← text]
  rfl

/-- Minus signs between units, one of them in front of the least number of hours there is, which is
printed with more digits than are read; the milliseconds refuse a sign and have all the digits that
are read. -/
theorem parse_print_full_signs :
    let format : FullFormat :=
      { first := { field := .days, minPrintedDigits := 3, maxParsedDigits := 1 }
        others := [{ field := .hours, minPrintedDigits := 12, separator := "-" },
          { field := .millis, maxParsedDigits := 2, rejectSigned := true, separator := "--5" }] }
    let period := { Period.zeroOf .standard with days := 7, hours := -2147483648, millis := 42 }
    ∃ builder formatter, format.operations.foldlM PeriodBuilder.perform {} = .ok builder ∧
      builder.formatter 0 = .ok formatter ∧
      formatter.print period = .ok "007--002147483648--542" ∧
      formatter.parse "007--002147483648--542" = .ok period := by
  intro format period
  have apart : ∀ unit ∈ format.others, unit.IsApart :=
    List.forall_mem_cons.mpr ⟨⟨'-', rfl, rfl⟩, List.forall_mem_singleton.mpr ⟨'-', rfl, rfl⟩⟩
  have absent : ∀ field, field ∉ format.fields → period.get field = 0 := by
    intro field missing
    cases field <;> revert missing <;> decide
  have fit : ∀ unit ∈ format.units, unit.Fits period :=
    List.forall_mem_cons.mpr ⟨⟨by decide +kernel, by decide⟩,
      List.forall_mem_cons.mpr ⟨⟨by decide +kernel, by decide⟩,
        List.forall_mem_singleton.mpr ⟨by decide +kernel, by decide⟩⟩⟩
  have text : String.ofList (format.text period) = "007--002147483648--542" := by
    decide +kernel
  have read := parse_print_full 0 apart rfl absent fit
  rwa [text] at read

end PeriodFormatter

end ChronoText
