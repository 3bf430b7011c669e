import ChronoText.Proofs.Parsing.Components
import ChronoText.Proofs.Parsing.Faithful
import ChronoText.Proofs.Printing.Lengths

/-! What components are declared to be. The calendar stays within the range, the sign and the number
of digits of every component. So no reader calls a value out of range that a date-time has, and the
estimate of a length is never too short for it. -/

set_option autoImplicit false

namespace ChronoText

theorem DateTimeField.name_injective {field other : DateTimeField} (same : field.name = other.name) :
    field = other := by
  have distinct : ∀ field ∈ all, ∀ other ∈ all, field.name = other.name → field = other := by
    decide
  exact distinct field field.mem_all other other.mem_all same

/-! ## Values that are refused -/

/-- What is called out of range for a component of a date-time is not in its range. -/
def Failure.KeepsRanges (failure : Failure) : Prop :=
  failure.kind = .valueOutOfRange → ∀ (field : DateTimeField) (refused : Int),
    failure.params = [.integer refused, .text field.name] → field.admits refused = false

theorem Failure.values_inj {value refused : Int} {name other : String}
    (same : [FailureParam.integer value, .text name] = [.integer refused, .text other]) :
    value = refused ∧ name = other := by
  simpa only [List.cons.injEq, FailureParam.integer.injEq, FailureParam.text.injEq, and_true]
    using same

theorem Failure.keepsRanges_of_name {failure : Failure} {value : Int} {name : String}
    (params : failure.params = [.integer value, .text name])
    (other : ∀ field : DateTimeField, name ≠ field.name) : failure.KeepsRanges :=
  fun _ field _ same => absurd (values_inj (params.symm.trans same)).2 (other field)

def Fault.KeepsRanges (fault : Fault) : Prop :=
  fault.failure.KeepsRanges

section Readers

variable {settings : ParseSettings} {cursor : Cursor} {bucket : Bucket}

theorem Literal.mismatch_keepsRanges (literal : Literal) (expected : String) :
    (literal.mismatch expected).KeepsRanges := by
  unfold mismatch
  repeat' split
  all_goals exact nofun

theorem Literal.read_keepsRanges (literal : Literal) (settings : ParseSettings) (cursor : Cursor) :
    Ends (fun _ => True) Fault.KeepsRanges (literal.read settings cursor) := by
  unfold read
  dsimp only
  split
  · trivial
  · split
    · trivial
    · exact literal.mismatch_keepsRanges _

theorem NameField.read_keepsRanges (name : NameField) :
    Ends (fun _ => True) Fault.KeepsRanges (name.read settings cursor bucket) := by
  unfold read
  dsimp only
  split
  · trivial
  · exact nofun

theorem FractionField.read_keepsRanges (fraction : FractionField) :
    Ends (fun _ => True) Fault.KeepsRanges (fraction.read settings cursor bucket) := by
  unfold read
  exact Ends.ite (fun _ => nofun) fun _ => trivial

theorem TwoDigitYear.read_keepsRanges (year : TwoDigitYear) :
    Ends (fun _ => True) Fault.KeepsRanges (year.read settings cursor bucket) := by
  unfold read
  split
  · trivial
  · exact nofun

namespace OffsetStyle

theorem twoDigits_keepsRanges (cursor : Cursor) :
    Ends (fun _ => True) Fault.KeepsRanges (twoDigits cursor) := by
  unfold twoDigits
  split
  · trivial
  · exact nofun

theorem skipSeparator_keepsRanges (style : OffsetStyle) (cursor : Cursor) :
    Ends (fun _ => True) Fault.KeepsRanges (style.skipSeparator cursor) := by
  unfold skipSeparator
  split
  · trivial
  · exact Ends.ite (fun _ => trivial) fun _ => nofun

theorem readParts_keepsRanges (style : OffsetStyle) (sign : Sign) (start : Cursor) :
    Ends (fun _ => True) Fault.KeepsRanges (style.readParts sign start) := by
  have offset : ∀ field : DateTimeField, "offset" ≠ field.name := by
    intro field
    cases field <;> decide
  unfold readParts
  refine Ends.bind (twoDigits_keepsRanges _) fun hours _ => ?_
  refine Ends.bind (style.skipSeparator_keepsRanges _) fun cursor _ => ?_
  refine Ends.bind (twoDigits_keepsRanges cursor) fun minutes _ => ?_
  dsimp only
  split
  · trivial
  · exact Failure.keepsRanges_of_name rfl offset

theorem read_keepsRanges (style : OffsetStyle) :
    Ends (fun _ => True) Fault.KeepsRanges (style.read cursor bucket) := by
  have read : Ends (fun _ => True) Fault.KeepsRanges (style.readOffset cursor) := by
    unfold readOffset
    split
    · trivial
    · trivial
    · exact style.readParts_keepsRanges .positive cursor
    · exact style.readParts_keepsRanges .negative cursor
    · exact nofun
  exact Ends.bind read fun _ _ => trivial

end OffsetStyle

namespace NumberField

theorem readNumeral_keepsRanges (number : NumberField) (culture : Culture) (required : Bool)
    (before? : Option Nat) (start : Cursor) :
    Ends (fun _ => True) (fun fault? : Option Fault => ∀ fault ∈ fault?, fault.KeepsRanges)
      (number.readNumeral culture required before? start) := by
  have other {failure : Failure} (position : Nat) (kind : failure.kind ≠ .valueOutOfRange) :
      ∀ fault ∈ some (Fault.mk position failure), fault.KeepsRanges := by
    rintro _ ⟨⟩ same
    exact absurd same kind
  unfold readNumeral
  refine Ends.ite (fun _ => other _ (by nofun)) fun _ => ?_
  refine Ends.ite (fun _ => ?noDigit) fun _ => ?_
  case noDigit =>
    cases required with
    | true => exact other _ (by nofun)
    | false => exact fun _ none => nomatch none
  refine Ends.ite (fun _ => other _ (by nofun)) fun _ => ?_
  exact Ends.ite (fun _ => other _ (by nofun)) fun _ => trivial

theorem storeUnit_keepsRanges (type : PeriodType) (bucket : Bucket) (unit : PeriodField)
    (value : Int32) :
    Ends (fun _ => True) Failure.KeepsRanges (storeUnit type bucket unit value) := by
  unfold storeUnit
  exact Ends.ite (fun _ => nofun) fun _ => trivial

/-- Only here is a value of a component refused for its range, and only by the range itself. -/
theorem store_keepsRanges (number : NumberField) (type : PeriodType) (numeral : Numeral)
    (bucket : Bucket) :
    Ends (fun _ => True) (fun error : Failure × Bucket => error.1.KeepsRanges)
      (number.store type numeral bucket) := by
  unfold store
  split
  · next own selected =>
      refine Ends.ite (fun _ => trivial) fun outside => ?_
      intro _ field refused same
      rw [selected] at same
      obtain ⟨rfl, name⟩ := Failure.values_inj same
      rw [← DateTimeField.name_injective name]
      exact Bool.eq_false_iff.mpr outside
  · next unit selected =>
      have names : ∀ field : DateTimeField, unit.name ≠ field.name := by
        intro field
        cases unit <;> cases field <;> decide
      refine Ends.ite (fun _ => ?_) fun _ => ?_
      · rw [selected]
        exact Failure.keepsRanges_of_name rfl names
      · refine Ends.bind ((storeUnit_keepsRanges type bucket unit _).mapError fun _ keeps => keeps) ?_
        intro stored _
        split
        · trivial
        · exact (storeUnit_keepsRanges type stored .millis _).mapError fun _ keeps => keeps

theorem read_keepsRanges (number : NumberField) {fault : Fault} {after : Bucket}
    (failed : number.read settings cursor bucket = .error (.failed fault after)) :
    fault.KeepsRanges := by
  cases (number.read_steps settings cursor bucket).of_error failed with
  | nothing | leading | trailing => exact nofun
  | numeral _ refused =>
      exact (number.readNumeral_keepsRanges settings.culture _ _ _).of_error refused _ rfl
  | value _ _ refused => exact (number.store_keepsRanges _ _ bucket).of_error refused

end NumberField

end Readers

/-! ## Whole formats -/

/-- The failure that was recorded, if there is one, keeps to the ranges. -/
def ParseState.KeepsRanges (state : ParseState) : Prop :=
  ∀ failure ∈ state.failure?, failure.KeepsRanges

namespace ParseState

variable {state : ParseState}

theorem keepsRanges_of_clear (clear : state.failure? = none) : state.KeepsRanges := by
  intro failure recorded
  rw [clear] at recorded
  cases recorded

theorem KeepsRanges.fail (keeps : state.KeepsRanges) {fault : Fault} (own : fault.KeepsRanges) :
    (state.fail fault).2.KeepsRanges := by
  intro failure recorded
  rcases Option.or_eq_some_iff.mp recorded with before | ⟨_, now⟩
  · exact keeps failure before
  · cases now
    exact own

theorem KeepsRanges.settle (keeps : state.KeepsRanges) {result : Except Fault (Cursor × Bucket)}
    (own : Ends (fun _ => True) Fault.KeepsRanges result) : (state.settle result).2.KeepsRanges := by
  cases result with
  | ok read => exact keeps
  | error fault => exact keeps.fail own

end ParseState

theorem NumberField.parse_keepsRanges (number : NumberField) (settings : ParseSettings)
    (cursor : Cursor) {state : ParseState} (keeps : state.KeepsRanges) :
    (number.parse settings cursor state).2.KeepsRanges := by
  unfold NumberField.parse
  split
  · exact keeps
  · exact keeps
  · next failed => exact ParseState.KeepsRanges.fail keeps (number.read_keepsRanges failed)

theorem PassedSeparator.fault_keepsRanges {passed : PassedSeparator} {finish : Nat} {fault : Fault}
    (found : passed.fault? finish = some fault) : fault.KeepsRanges := by
  unfold fault? at found
  split at found
  · cases found
    exact nofun
  · split at found
    · cases found
      exact nofun
    · cases found

namespace Element

theorem finish_keepsRanges (passed : List PassedSeparator) (cursor : Cursor) {state : ParseState}
    (keeps : state.KeepsRanges) : (finish passed cursor state).2.KeepsRanges := by
  unfold finish
  split
  · next found =>
      obtain ⟨check, _, own⟩ := List.exists_of_findSome?_eq_some found
      exact keeps.fail (PassedSeparator.fault_keepsRanges own)
  · exact keeps

mutual

theorem parse_keepsRanges (settings : ParseSettings) (cursor : Cursor) {state : ParseState}
    (keeps : state.KeepsRanges) :
    ∀ element : Element, (parse settings cursor state element).2.KeepsRanges
  | .literal text => by
      refine keeps.settle ?_
      have own := text.read_keepsRanges settings cursor
      cases read : text.read settings cursor with
      | ok next => trivial
      | error fault => exact own.of_error read
  | .number field => field.parse_keepsRanges settings cursor keeps
  | .name field => keeps.settle field.read_keepsRanges
  | .fraction field => keeps.settle field.read_keepsRanges
  | .twoDigitYear field => keeps.settle field.read_keepsRanges
  | .offset style => keeps.settle style.read_keepsRanges
  | .separator _ => keeps
  | .composite elements => parseFrom_keepsRanges settings _ _ cursor keeps elements

theorem parseFrom_keepsRanges (settings : ParseSettings) (segment : Nat)
    (passed : List PassedSeparator) (cursor : Cursor) {state : ParseState}
    (keeps : state.KeepsRanges) :
    ∀ elements : List Element,
      (parseFrom settings segment passed cursor state elements).2.KeepsRanges
  | [] => finish_keepsRanges passed cursor keeps
  | element :: rest => by
      by_cases separator : IsSeparator element
      · obtain ⟨between, rfl⟩ := separator
        rw [parseFrom_separator]
        exact parseFrom_keepsRanges settings _ _ _ keeps rest
      · have own := parse_keepsRanges settings cursor keeps element
        cases read : parse settings cursor state element with
        | mk outcome after =>
            rw [read] at own
            cases outcome with
            | advanced next =>
                rw [parseFrom_element separator read]
                exact parseFrom_keepsRanges settings segment passed next own rest
            | failedAt position =>
                rw [parseFrom_failed separator read]
                exact own

end

end Element

/-! ## Widths -/

section Widths

variable {value : LocalDateTime}

/-- The estimate for a component has room for its digits and its sign. -/
theorem NumberField.renderedLength_fieldValue_le (valid : value.IsValid) (culture : Culture)
    (field : DateTimeField) (minDigits maxDigits : Nat) (fixedWidth : Bool) :
    renderedLength { NumberField.ofDateTime field minDigits maxDigits with fixedWidth } culture
        (.ofInt (Iso.fieldValue value field)) ≤
      max minDigits (Iso.maximumDigits field) * culture.zeroDigit.utf8Size
        + if field.isSigned then culture.negativeSign.utf8ByteSize else 0 := by
  have digits : max (Text.digitCount (Iso.fieldValue value field).natAbs) minDigits ≤
      max minDigits (Iso.maximumDigits field) :=
    Nat.max_le.mpr ⟨(Iso.digitCount_fieldValue_le valid field).trans (Nat.le_max_right _ _),
      Nat.le_max_left _ _⟩
  have sign : (if decide (Iso.fieldValue value field < 0) = true then
      culture.negativeSign.utf8ByteSize else 0) ≤
        if field.isSigned then culture.negativeSign.utf8ByteSize else 0 := by
    split
    · next negative =>
        rw [if_pos (Iso.isSigned_of_fieldValue_neg valid (of_decide_eq_true negative))]
    · exact Nat.zero_le _
  simp only [renderedLength, PrintedNumber.ofInt, NumberField.ofDateTime, affixText,
    Text.utf8Length_nil, Option.isSome_none, Bool.false_eq_true, if_false, Nat.add_zero]
  exact Nat.add_le_add (Nat.mul_le_mul_right _ digits) sign

/-- What the calendar gives for a component is in its range, no longer than the calendar says, and
negative only where signs are read. So a value of a date-time is never what reading calls out of
range, whatever the format and the text; a number that is as wide as the calendar says reads it back;
and the estimate of a length is not raised for it. Whether a date-time can be made of all that was
read is another question. -/
theorem Iso.fieldValues_fit (valid : value.IsValid) (field : DateTimeField) :
    let shown := fieldValue value field
    (∀ least greatest, field.parseRange? = some (least, greatest) →
      least ≤ shown ∧ shown ≤ greatest) ∧
    Text.digitCount shown.natAbs ≤ maximumDigits field ∧
    (shown < 0 → field.isSigned = true) ∧
    (∀ settings cursor bucket element failure,
      (Element.parse settings cursor { bucket } element).2.failure? = some failure →
      failure.kind = .valueOutOfRange → failure.params ≠ [.integer shown, .text field.name]) ∧
    ∀ culture offset? handle minDigits maxDigits fixedWidth,
      let number := { NumberField.ofDateTime field minDigits maxDigits with fixedWidth }
      let context : PrintContext := ⟨culture, .dateTime value offset? (calendar handle)⟩
      let length := number.renderedLength culture (.ofInt shown)
      let estimate := max minDigits (maximumDigits field) * culture.zeroDigit.utf8Size
        + if field.isSigned then culture.negativeSign.utf8ByteSize else 0
      length ≤ estimate ∧ number.lengthHint context = .between length estimate ∧
      (culture.WritesPlainNumbers →
        maximumDigits field ≤ (if fixedWidth then minDigits else max maxDigits minDigits) →
        ∀ settings rest, settings.culture = culture →
          fixedWidth = true ∨ Text.startsWithDigit culture.zeroDigit rest = false →
          Element.ReadsBack settings context rest (.number number) (·.setField field shown)) := by
  have admitted := fieldValue_admitted valid field
  refine ⟨?_, digitCount_fieldValue_le valid field, isSigned_of_fieldValue_neg valid, ?_, ?_⟩
  · intro least greatest range
    rw [DateTimeField.admits, range] at admitted
    simpa only [Bool.and_eq_true, decide_eq_true_eq] using admitted
  · intro settings cursor bucket element failure recorded kind params
    have clear : ParseState.KeepsRanges { bucket } := ParseState.keepsRanges_of_clear rfl
    have outside := Element.parse_keepsRanges settings cursor clear element failure recorded kind
      field _ params
    exact Bool.false_ne_true (outside.symm.trans admitted)
  · intro culture offset? handle minDigits maxDigits fixedWidth number context length estimate
    have enough : length ≤ estimate :=
      NumberField.renderedLength_fieldValue_le valid culture field minDigits maxDigits fixedWidth
    refine ⟨enough, ?_, ?_⟩
    · exact congrArg (LengthHint.between length) (Nat.max_eq_left enough)
    · intro plain wide settings rest same stop
      have source : context.source = .dateTime value offset? (calendar handle) := rfl
      exact NumberField.readsBack_fieldValue plain same source valid
        ((digitCount_fieldValue_le valid field).trans wide) stop

/-- The last millisecond of the last day, whose week is in the year after. -/
theorem Iso.fieldValues_fit_lastWeekYear :
    let value : LocalDateTime := ⟨⟨275760, 12, 31⟩, ⟨23, 59, 59, 999999999⟩⟩
    value.IsValid ∧ (0 ≤ fieldValue value .millisOfDay ∧ fieldValue value .millisOfDay ≤ 86399999) ∧
    Element.ReadsBack { culture := .invariant } ⟨.invariant, .dateTime value none (calendar 0)⟩ []
      (.number (.ofDateTime .weekYear 4 6)) (·.setField .weekYear 275761) := by
  intro value
  have valid : value.IsValid :=
    ⟨⟨by decide, by decide, by decide, by decide, by decide, by decide⟩,
      ⟨by decide, by decide, by decide, by decide⟩⟩
  obtain ⟨inRange, _⟩ := fieldValues_fit valid .millisOfDay
  obtain ⟨_, _, _, _, widths⟩ := fieldValues_fit valid .weekYear
  obtain ⟨_, _, readsBack⟩ := widths .invariant none 0 4 6 false
  have year : fieldValue value .weekYear = 275761 := by decide
  rw [year] at readsBack
  exact ⟨valid, inRange 0 86399999 rfl,
    readsBack Culture.invariant_writesPlainNumbers (by decide) _ [] rfl (.inr rfl)⟩

end Widths

end ChronoText
