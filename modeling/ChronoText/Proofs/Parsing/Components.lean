import ChronoText.Proofs.Parsing.Elements
import ChronoText.Proofs.Parsing.Resolution
import ChronoText.Proofs.Pattern.Compiled
import ChronoText.Proofs.Temporal.Fields

/-! Date-times that are read back through numbers, fractions and an offset. Reading records each
component that was printed, and the components that were recorded make the date-time again, as far
as they were printed. -/

set_option autoImplicit false

namespace ChronoText

/-! ## What is recorded -/

def FractionField.cut (fraction : FractionField) (nanosecond : Nat) : Nat :=
  nanosecond / 10 ^ (9 - fraction.digits) * 10 ^ (9 - fraction.digits)

theorem FractionField.cut_nine (nanosecond : Nat) : cut ⟨9⟩ nanosecond = nanosecond := by
  unfold cut
  simp only [Nat.sub_self, Nat.pow_zero, Nat.div_one, Nat.mul_one]

theorem FractionField.cut_le (fraction : FractionField) (nanosecond : Nat) :
    fraction.cut nanosecond ≤ nanosecond :=
  Nat.div_mul_le_self _ _

namespace Pattern

def hasNumber (elements : List Element) (field : DateTimeField) : Bool :=
  elements.any fun
    | .number number => number.selector = .dateTime field
    | _ => false

def lastFraction? : List Element → Option FractionField
  | [] => none
  | .fraction fraction :: rest => (lastFraction? rest).or (some fraction)
  | _ :: rest => lastFraction? rest

/-- What reading the text of a date-time records of a component. -/
def recorded? (elements : List Element) (value : LocalDateTime) (field : DateTimeField) :
    Option Int :=
  if field = .nanoOfSecond then
    (lastFraction? elements).map fun fraction => (fraction.cut value.time.nanosecond : Int)
  else if hasNumber elements field then some (Iso.fieldValue value field)
  else none

/-- The date-time as far as the elements print it: the date, and of the time the components that
have a number, with the nanosecond cut off as in the last fraction. -/
def kept (elements : List Element) (value : LocalDateTime) : LocalDateTime where
  date := value.date
  time :=
    { hour := if hasNumber elements .hourOfDay then value.time.hour else 0
      minute := if hasNumber elements .minuteOfHour then value.time.minute else 0
      second := if hasNumber elements .secondOfMinute then value.time.second else 0
      nanosecond := ((lastFraction? elements).map (·.cut value.time.nanosecond)).getD 0 }

def record (value : LocalDateTime) (offset? : Option Offset) (bucket : Bucket) :
    Element → Bucket
  | .number number =>
    match number.selector with
    | .dateTime field => bucket.setField field (Iso.fieldValue value field)
    | .period _ => bucket
  | .fraction fraction => bucket.setField .nanoOfSecond (fraction.cut value.time.nanosecond : Nat)
  | .offset _ =>
    match offset? with
    | some offset => bucket.setOffset offset
    | none => bucket
  | _ => bucket

end Pattern

/-! ## Elements that stand side by side -/

/-- The resolved text starts with a character that is no digit of the culture. -/
def Literal.EndsDigits (culture : Culture) (literal : Literal) : Prop :=
  ∃ c text, (literal.resolve culture).toList = c :: text ∧
    Text.digitValue? culture.zeroDigit c = none

/-- The elements of a date-time can be told apart in front of `tail`: the digits of a number end at
its width, at fixed text or at the end, and there is nothing behind an offset. -/
inductive Delimited (culture : Culture) (value : LocalDateTime) (tail : List Char) :
    List Element → Prop where
  | nil : Delimited culture value tail []
  | literal {literal rest} :
      Delimited culture value tail rest →
      Delimited culture value tail (.literal literal :: rest)
  | fraction {fraction rest} :
      Delimited culture value tail rest →
      Delimited culture value tail (.fraction fraction :: rest)
  | fixed {number rest} :
      number.fixedWidth = true →
      (∀ field, number.selector = .dateTime field →
        Text.digitCount (Iso.fieldValue value field).natAbs ≤ number.minDigits) →
      Delimited culture value tail rest →
      Delimited culture value tail (.number number :: rest)
  | beforeText {number literal rest} :
      number.fixedWidth = false →
      literal.EndsDigits culture →
      Delimited culture value tail (.literal literal :: rest) →
      Delimited culture value tail (.number number :: .literal literal :: rest)
  | lastNumber {number} :
      number.fixedWidth = false →
      Text.startsWithDigit culture.zeroDigit tail = false →
      Delimited culture value tail [.number number]
  | lastOffset {style} :
      tail = [] →
      Delimited culture value tail [.offset style]

section Reading

variable {settings : ParseSettings} {context : PrintContext} {value : LocalDateTime}
  {offset? : Option Offset} {handle : Nat}

/-- What the calendar gives for a component reads back wherever its digits fit. -/
theorem NumberField.readsBack_fieldValue (plain : context.culture.WritesPlainNumbers)
    (same : settings.culture = context.culture)
    (source : context.source = .dateTime value offset? (Iso.calendar handle))
    (valid : value.IsValid) {field : DateTimeField} {minDigits maxDigits : Nat} {fixedWidth : Bool}
    {rest : List Char}
    (fits : Text.digitCount (Iso.fieldValue value field).natAbs ≤
      if fixedWidth then minDigits else max maxDigits minDigits)
    (stop : fixedWidth = true ∨ Text.startsWithDigit context.culture.zeroDigit rest = false) :
    Element.ReadsBack settings context rest
      (.number { NumberField.ofDateTime field minDigits maxDigits with fixedWidth })
      (·.setField field (Iso.fieldValue value field)) := by
  have shown : context.fieldValue? field = some (Iso.fieldValue value field) := by
    unfold PrintContext.fieldValue?
    rw [source]
    rfl
  exact readsBack_dateTime plain same shown (Iso.isSigned_of_fieldValue_neg valid)
    (Iso.fieldValue_admitted valid field) (Iso.natAbs_fieldValue_le valid field) fits stop

theorem NumberField.readsBack_component (plain : context.culture.WritesPlainNumbers)
    (same : settings.culture = context.culture)
    (source : context.source = .dateTime value offset? (Iso.calendar handle))
    (valid : value.IsValid) {number : NumberField} {rest : List Char}
    (compiled : Element.IsCompiled (.number number))
    (fits : number.fixedWidth = true → ∀ field, number.selector = .dateTime field →
      Text.digitCount (Iso.fieldValue value field).natAbs ≤ number.minDigits)
    (stop : number.fixedWidth = true ∨
      Text.startsWithDigit context.culture.zeroDigit rest = false) :
    Element.ReadsBack settings context rest (.number number)
      (fun bucket => Pattern.record value offset? bucket (.number number)) := by
  cases compiled with
  | @number field count fixedWidth letter =>
      have digits : Text.digitCount (Iso.fieldValue value field).natAbs ≤
          if fixedWidth then count else max (Iso.maximumDigits field) count := by
        split
        · next fixed => exact fits fixed field rfl
        · exact Nat.le_trans (Iso.digitCount_fieldValue_le valid field) (Nat.le_max_left _ _)
      exact readsBack_fieldValue plain same source valid digits stop

theorem Delimited.legible {tail : List Char} {elements : List Element}
    (delimited : Delimited context.culture value tail elements)
    (compiled : ∀ element ∈ elements, element.IsCompiled)
    (plain : context.culture.WritesPlainNumbers) (same : settings.culture = context.culture)
    (source : context.source = .dateTime value offset? (Iso.calendar handle))
    (exact : settings.styles.innerBlank = false) (valid : value.IsValid)
    (known : Element.anyRequiresOffset elements = true → offset?.isSome = true)
    (before : Nat) (touched : Bool) :
    Legible settings context tail before touched elements
      (fun bucket => elements.foldl (Pattern.record value offset?) bucket) := by
  induction delimited generalizing before touched with
  | nil => exact .reached
  | @literal literal rest _ ih =>
      obtain ⟨_, others⟩ := List.forall_mem_cons.mp compiled
      refine .element ?_ ?_ (ih others known _ _)
      · exact Element.not_isSeparator_literal _
      · exact Literal.readsBack same literal exact _
  | @fraction fraction rest _ ih =>
      obtain ⟨own, others⟩ := List.forall_mem_cons.mp compiled
      have shown : context.fieldValue? .nanoOfSecond = some (value.time.nanosecond : Int) := by
        unfold PrintContext.fieldValue?
        rw [source]
        rfl
      have small : value.time.nanosecond < 10 ^ 9 := Nat.lt_succ_of_le valid.time.nanosecond_le
      cases own with
      | fraction positive few =>
          refine .element ?_ ?_ (ih others known _ _)
          · exact Element.not_isSeparator_fraction _
          · exact FractionField.readsBack plain.digits same positive few shown small _
  | @fixed number rest fixed fits _ ih =>
      obtain ⟨own, others⟩ := List.forall_mem_cons.mp compiled
      refine .element ?_ ?_ (ih others known _ _)
      · exact Element.not_isSeparator_number _
      · exact NumberField.readsBack_component plain same source valid own (fun _ => fits)
          (.inl fixed)
  | @beforeText number literal rest free ends _ ih =>
      obtain ⟨own, others⟩ := List.forall_mem_cons.mp compiled
      refine .element ?_ ?_ (ih others known _ _)
      · exact Element.not_isSeparator_number _
      · obtain ⟨c, text, resolved, noDigit⟩ := ends
        refine NumberField.readsBack_component plain same source valid own ?_ (.inr ?_)
        · exact fun fixed => absurd (free ▸ fixed) Bool.false_ne_true
        · rw [Element.printFrom_element _ _ (Element.not_isSeparator_literal _)]
          simp only [Element.print, Literal.print, resolved, List.cons_append,
            Text.startsWithDigit, List.head?_cons, Option.bind_some, noDigit, Option.isSome_none]
  | @lastNumber number free ends =>
      obtain ⟨own, _⟩ := List.forall_mem_cons.mp compiled
      refine .element ?_ ?_ .reached
      · exact Element.not_isSeparator_number _
      · refine NumberField.readsBack_component plain same source valid own ?_ (.inr ?_)
        · exact fun fixed => absurd (free ▸ fixed) Bool.false_ne_true
        · rw [Element.printFrom]
          exact ends
  | @lastOffset style nothing =>
      obtain ⟨offset, rfl⟩ := Option.isSome_iff_exists.mp (known rfl)
      have shown : context.offset? = some offset := by
        unfold PrintContext.offset?
        rw [source]
      refine .element ?_ ?_ .reached
      · exact Element.not_isSeparator_offset _
      · refine OffsetStyle.readsBack shown (.inr ?_)
        rw [Element.printFrom, nothing]
        cases style <;> rfl

end Reading

/-! ## The date-time that was recorded -/

namespace Pattern

variable {elements : List Element} {value : LocalDateTime} {offset? : Option Offset}

theorem hasNumber_cons (element : Element) (rest : List Element) (field : DateTimeField) :
    hasNumber (element :: rest) field = (hasNumber [element] field || hasNumber rest field) := by
  simp only [hasNumber, List.any_cons, List.any_nil, Bool.or_false]

theorem hasLetter_of_hasNumber (compiled : ∀ element ∈ elements, element.IsCompiled)
    {field : DateTimeField} (number : hasNumber elements field = true) : field.HasLetter := by
  obtain ⟨element, member, selected⟩ := List.any_eq_true.mp number
  cases compiled element member with
  | @number own count fixedWidth letter =>
      have same : FieldSelector.dateTime own = .dateTime field := of_decide_eq_true selected
      cases same
      exact letter
  | _ => cases selected

theorem hasNumber_eq_false (compiled : ∀ element ∈ elements, element.IsCompiled)
    {field : DateTimeField} (noLetter : ¬ field.HasLetter) : hasNumber elements field = false := by
  rw [← Bool.not_eq_true]
  exact fun number => noLetter (hasLetter_of_hasNumber compiled number)

/-- Every component holds what was recorded last, or what it held before. -/
theorem fields_foldl_record (compiled : ∀ element ∈ elements, element.IsCompiled)
    (bucket : Bucket) (field : DateTimeField) :
    (elements.foldl (record value offset?) bucket).fields field =
      (recorded? elements value field).or (bucket.fields field) := by
  induction elements generalizing bucket with
  | nil =>
      unfold recorded?
      split <;> rfl
  | cons element rest ih =>
      obtain ⟨own, others⟩ := List.forall_mem_cons.mp compiled
      rw [List.foldl_cons, ih others]
      unfold recorded?
      rw [hasNumber_cons]
      cases own with
      | @number ownField count fixedWidth letter =>
          have notNano : ownField ≠ .nanoOfSecond := by
            rintro rfl
            exact letter
          have isOwn : hasNumber [.number
              { NumberField.ofDateTime ownField count (Iso.maximumDigits ownField) with
                fixedWidth }] field = decide (ownField = field) := by
            simp only [hasNumber, List.any_cons, List.any_nil, Bool.or_false,
              NumberField.ofDateTime, FieldSelector.dateTime.injEq]
          rw [isOwn]
          simp only [record, NumberField.ofDateTime, Bucket.fields_setField, lastFraction?]
          by_cases own : field = ownField
          · subst own
            simp only [notNano, if_false, if_true, decide_true, Bool.true_or, Option.some_or]
            split <;> rfl
          · simp only [own, Ne.symm own, if_false, decide_false, Bool.false_or]
      | @fraction fraction _ _ =>
          simp only [record, Bucket.fields_setField, lastFraction?]
          by_cases nano : field = .nanoOfSecond
          · simp only [nano, if_true]
            cases lastFraction? rest <;> rfl
          · simp only [nano, if_false]
            rfl
      | offset =>
          cases offset? <;> rfl
      | _ => rfl

theorem offset?_foldl_record (compiled : ∀ element ∈ elements, element.IsCompiled)
    (bucket : Bucket) :
    (elements.foldl (record value offset?) bucket).offset? =
      if Element.anyRequiresOffset elements then offset?.or bucket.offset? else bucket.offset? := by
  induction elements generalizing bucket with
  | nil => rfl
  | cons element rest ih =>
      obtain ⟨own, others⟩ := List.forall_mem_cons.mp compiled
      rw [List.foldl_cons, ih others, Element.anyRequiresOffset]
      cases own with
      | offset =>
          cases offset? <;> simp [record, Element.requiresOffset, Bucket.setOffset]
      | _ => rfl

theorem periodFields_foldl_record (compiled : ∀ element ∈ elements, element.IsCompiled)
    (bucket : Bucket) :
    (elements.foldl (record value offset?) bucket).periodFields = bucket.periodFields := by
  induction elements generalizing bucket with
  | nil => rfl
  | cons element rest ih =>
      obtain ⟨own, others⟩ := List.forall_mem_cons.mp compiled
      rw [List.foldl_cons, ih others]
      cases own with
      | offset =>
          cases offset? <;> rfl
      | _ => rfl

def recordedBucket (elements : List Element) (value : LocalDateTime) (offset? : Option Offset) :
    Bucket where
  fields := recorded? elements value
  periodFields _ := none
  offset? := if Element.anyRequiresOffset elements then offset? else none

theorem foldl_record_empty (compiled : ∀ element ∈ elements, element.IsCompiled) :
    elements.foldl (record value offset?) .empty = recordedBucket elements value offset? := by
  have fields : (elements.foldl (record value offset?) .empty).fields =
      recorded? elements value := by
    funext field
    rw [fields_foldl_record compiled]
    exact Option.or_none
  have offset : (elements.foldl (record value offset?) .empty).offset? = _ :=
    offset?_foldl_record compiled .empty
  have units : (elements.foldl (record value offset?) .empty).periodFields = _ :=
    periodFields_foldl_record compiled .empty
  have unread : offset?.or Bucket.empty.offset? = offset? := Option.or_none
  rw [unread] at offset
  generalize elements.foldl (record value offset?) .empty = bucket at *
  cases bucket
  simp only [recordedBucket, Bucket.mk.injEq]
  exact ⟨fields, units, offset⟩

theorem cut_lastFraction_le (elements : List Element) (nanosecond : Nat) :
    ((lastFraction? elements).map (·.cut nanosecond)).getD 0 ≤ nanosecond := by
  cases lastFraction? elements with
  | none => exact Nat.zero_le _
  | some fraction => exact fraction.cut_le nanosecond

/-- A bucket that holds what the elements of a format with a year, a month and a day record makes
the date-time that they keep. -/
theorem toLocal_of_recorded (compiled : ∀ element ∈ elements, element.IsCompiled)
    (valid : value.IsValid) (year : hasNumber elements .year = true)
    (month : hasNumber elements .monthOfYear = true) (day : hasNumber elements .dayOfMonth = true)
    (noHourOfHalfDay : hasNumber elements .hourOfHalfDay = false)
    (noClockHourOfHalfDay : hasNumber elements .clockHourOfHalfDay = false)
    (noClockHour : hasNumber elements .clockHourOfDay = false) :
    (recordedBucket elements value offset?).toLocal = .ok (kept elements value) := by
  let bucket := recordedBucket elements value offset?
  have held (field : DateTimeField) : bucket.fields field = recorded? elements value field := rfl
  have absent {field : DateTimeField} (other : field ≠ .nanoOfSecond)
      (noNumber : hasNumber elements field = false) : bucket.fields field = none := by
    rw [held, recorded?, if_neg other, noNumber]
    rfl
  have present {field : DateTimeField} (other : field ≠ .nanoOfSecond)
      (number : hasNumber elements field = true) :
      bucket.fields field = some (Iso.fieldValue value field) := by
    rw [held, recorded?, if_neg other, number]
    rfl
  have holds : bucket.HoldsDate value.date :=
    ⟨present (by decide) year, present (by decide) month, present (by decide) day⟩
  have weekday : ∀ day ∈ bucket.fields .dayOfWeek, day = Gregorian.dayOfWeek value.date.epochDay := by
    intro day read
    rw [held, recorded?, if_neg (by decide)] at read
    split at read
    · cases read
      rfl
    · cases read
  have noHalfDay : hasNumber elements .halfDayOfDay = false :=
    hasNumber_eq_false compiled (by exact id)
  have time := Bucket.timeOfDay_eq (absent (by decide) noClockHour)
    (absent (by decide) noHalfDay)
    (absent (by decide) noHourOfHalfDay) (absent (by decide) noClockHourOfHalfDay)
    (absent (by decide) (hasNumber_eq_false compiled (by exact id)))
    (absent (by decide) (hasNumber_eq_false compiled (by exact id)))
  have clock {field : DateTimeField} {amount : Nat} (other : field ≠ .nanoOfSecond)
      (own : Iso.fieldValue value field = amount) (small : amount < 2 ^ 8) :
      Bucket.narrowed 8 ((bucket.fields field).getD 0) =
        if hasNumber elements field then amount else 0 := by
    rw [held, recorded?, if_neg other]
    split
    · rw [Option.getD_some, own, Bucket.narrowed_natCast small]
    · rfl
  obtain ⟨hourLe, minuteLe, secondLe, nanosecondLe⟩ := valid.time
  have cutLe := cut_lastFraction_le elements value.time.nanosecond
  have nanosecond : Bucket.narrowed 32 ((bucket.fields .nanoOfSecond).getD 0) =
      (kept elements value).time.nanosecond := by
    rw [held, recorded?, if_pos rfl]
    unfold kept
    cases last : lastFraction? elements with
    | none => rfl
    | some fraction =>
        rw [last] at cutLe
        exact Bucket.narrowed_natCast (Nat.lt_of_le_of_lt cutLe (by omega))
  have keptTime : bucket.timeOfDay = (kept elements value).time := by
    rw [time, clock (by decide) rfl (by omega), clock (by decide) rfl (by omega),
      clock (by decide) rfl (by omega), nanosecond]
    rfl
  have keptValid : (kept elements value).time.IsValid := by
    unfold kept
    refine ⟨?_, ?_, ?_, Nat.le_trans cutLe nanosecondLe⟩ <;> simp only [] <;> split <;> omega
  rw [holds.toLocal valid.date weekday (keptTime ▸ keptValid), keptTime]
  rfl

end Pattern

end ChronoText
