import ChronoText.Formatter.Tree
import ChronoText.Proofs.Formatter.SoundBuilders
import ChronoText.Proofs.Parsing.Elements

/-! Lengths of printed texts. The hint of an element is worked out without its text, so each kind of
element has an equation for the length of its text. Digits count alike if all ten of the culture take
as many bytes as its zero. The bounds of a sequence are the sums of the bounds of its elements. -/

set_option autoImplicit false

namespace ChronoText

/-! ## Texts -/

namespace Text

theorem utf8Length_toList (text : String) : utf8Length text.toList = text.utf8ByteSize := by
  rw [← String.utf8Len_toList]
  induction text.toList with
  | nil => rfl
  | cons c rest ih => rw [utf8Length_cons, ih, String.utf8Len_cons, Nat.add_comm]

theorem utf8Length_of_forall {text : List Char} {size : Nat}
    (even : ∀ c ∈ text, c.utf8Size = size) : utf8Length text = text.length * size := by
  induction text with
  | nil => exact (Nat.zero_mul size).symm
  | cons c rest ih =>
      obtain ⟨own, others⟩ := List.forall_mem_cons.mp even
      rw [utf8Length_cons, own, ih others, List.length_cons, Nat.add_one_mul, Nat.add_comm]

/-- The ten characters from `zero` on all exist and have the length of `zero`. -/
def DigitsAlike (zero : Char) : Prop :=
  ∀ digit < 10, (zero.toNat + digit).isValidChar ∧
    (Char.ofNat (zero.toNat + digit)).utf8Size = zero.utf8Size

instance (zero : Char) : Decidable (DigitsAlike zero) :=
  inferInstanceAs (Decidable (∀ digit < 10, _))

theorem digitsAlike_ascii : DigitsAlike '0' := by
  decide

theorem utf8Length_padded {zero : Char} (alike : DigitsAlike zero) (minDigits value : Nat) :
    utf8Length (padded zero minDigits value) =
      max minDigits (digitCount value) * zero.utf8Size := by
  have even : ∀ c ∈ padded zero minDigits value, c.utf8Size = zero.utf8Size := by
    rw [padded_eq_map]
    intro c member
    obtain ⟨digit, digitMember, rfl⟩ := List.mem_map.mp member
    obtain ⟨valid, size⟩ := alike digit (paddedDigits_lt minDigits value digit digitMember)
    rw [digitChar, if_pos valid, size]
  rw [utf8Length_of_forall even, length_padded]

theorem utf8Length_padded_of_lt {zero : Char} (alike : DigitsAlike zero) {minDigits value : Nat}
    (some : 0 < minDigits) (small : value < 10 ^ minDigits) :
    utf8Length (padded zero minDigits value) = minDigits * zero.utf8Size := by
  rw [utf8Length_padded alike, Nat.max_eq_left (digitCount_le some small)]

theorem utf8Length_integer (value : Int) :
    utf8Length (integer value) = digitCount value.natAbs + if value < 0 then 1 else 0 := by
  have digits : utf8Length (padded '0' 1 value.natAbs) = digitCount value.natAbs := by
    have size : '0'.utf8Size = 1 := rfl
    rw [utf8Length_padded digitsAlike_ascii, size, Nat.mul_one,
      Nat.max_eq_right (digitCount_pos _)]
  have sign : '-'.utf8Size = 1 := rfl
  unfold integer
  split
  · rw [utf8Length_cons, digits, sign, Nat.add_comm]
  · rw [digits, Nat.add_zero]

end Text

/-! ## Hints -/

namespace LengthHint

/-- The hint holds of a length. The lower bound falls short of it only where it can no longer be
counted. -/
structure Bounds (hint : LengthHint) (length : Nat) : Prop where
  lower_le : hint.lower ≤ length
  reaches : min length maxLength ≤ hint.lower
  upper : ∀ bound ∈ hint.upper, length ≤ bound

theorem bounds_exact (length : Nat) : (exact length).Bounds length where
  lower_le := Nat.le_refl length
  reaches := Nat.min_le_left length maxLength
  upper := fun _ same => Option.some.inj same ▸ Nat.le_refl length

theorem bounds_between {length greatest : Nat} (le : length ≤ greatest) :
    (between length greatest).Bounds length where
  lower_le := Nat.min_le_left length greatest
  reaches := by
    simp only [between, Nat.min_eq_left le]
    exact Nat.min_le_left length maxLength
  upper := by
    intro bound same
    rw [← Option.some.inj same]
    exact Nat.le_max_left length greatest

theorem Bounds.add {first second : LengthHint} {firstLength secondLength : Nat}
    (one : first.Bounds firstLength) (other : second.Bounds secondLength) :
    (first + second).Bounds (firstLength + secondLength) := by
  obtain ⟨oneLower, oneReaches, oneUpper⟩ := one
  obtain ⟨otherLower, otherReaches, otherUpper⟩ := other
  have lower : (first + second).lower = min (first.lower + second.lower) maxLength := rfl
  refine ⟨by omega, by omega, fun bound sum => ?_⟩
  obtain ⟨oneBound, oneSame, sum⟩ := Option.bind_eq_some_iff.mp sum
  obtain ⟨otherBound, otherSame, sum⟩ := Option.bind_eq_some_iff.mp sum
  unfold addUpper at sum
  split at sum
  · cases sum
    exact Nat.add_le_add (oneUpper oneBound oneSame) (otherUpper otherBound otherSame)
  · cases sum

theorem Bounds.le_capacity {hint : LengthHint} {length : Nat} (bounds : hint.Bounds length)
    (countable : length ≤ maxLength) : length ≤ hint.capacity := by
  unfold capacity
  cases upper : hint.upper with
  | some bound => exact bounds.upper bound upper
  | none =>
      have reached := bounds.reaches
      rwa [Nat.min_eq_left countable] at reached

/-- The hint bounds a length, and is nothing but that length where it is `known`. -/
structure Describes (hint : LengthHint) (length : Nat) (known : Prop) : Prop where
  bounds : hint.Bounds length
  exact : known → length ≤ maxLength → hint = .exact length

theorem describes_exact (length : Nat) {known : Prop} : (exact length).Describes length known :=
  ⟨bounds_exact length, fun _ _ => rfl⟩

theorem Describes.add {first second : LengthHint} {firstLength secondLength : Nat}
    {firstKnown secondKnown known : Prop} (one : first.Describes firstLength firstKnown)
    (other : second.Describes secondLength secondKnown)
    (split : known → firstKnown ∧ secondKnown) :
    (first + second).Describes (firstLength + secondLength) known where
  bounds := one.bounds.add other.bounds
  exact := by
    intro both countable
    obtain ⟨ownKnown, restKnown⟩ := split both
    rw [one.exact ownKnown ((Nat.le_add_right _ _).trans countable),
      other.exact restKnown ((Nat.le_add_left _ _).trans countable), exact_add_exact countable]

end LengthHint

/-! ## Elements -/

/-- What the lengths of texts depend on: digits of one length, and a fraction of a second that has
nine digits. -/
structure PrintContext.IsEven (context : PrintContext) : Prop where
  digits : Text.DigitsAlike context.culture.zeroDigit
  nanosecond : ∀ value, context.fieldValue? .nanoOfSecond = some value →
    0 ≤ value ∧ value ≤ 999999999

namespace NumberField

variable {number : NumberField} {context : PrintContext} {printed : PrintedNumber}

theorem millis_printed? (shown : number.printed? context = some printed) :
    ∀ millis ∈ printed.millis?, millis < 1000 := by
  have ofInt (value : Int) : ∀ millis ∈ (PrintedNumber.ofInt value).millis?, millis < 1000 :=
    fun _ absurd => nomatch absurd
  have ofMillis (total : Int) : ∀ millis ∈ (PrintedNumber.ofMillis total).millis?, millis < 1000 := by
    intro millis fraction
    simp only [PrintedNumber.ofMillis] at fraction
    split at fraction
    · cases fraction
    · cases fraction
      exact Nat.mod_lt _ (by decide)
  unfold printed? at shown
  split at shown
  · obtain ⟨value, _, rfl⟩ := Option.map_eq_some_iff.mp shown
    exact ofInt value
  · obtain ⟨period, _, shown⟩ := Option.bind_eq_some_iff.mp shown
    unfold printedUnit? at shown
    split at shown
    · split at shown
      · cases shown
        exact ofMillis _
      · cases shown
    · split at shown
      · cases shown
        exact ofInt _
      · cases shown

theorem utf8Length_render {culture : Culture} (alike : Text.DigitsAlike culture.zeroDigit)
    (millis : ∀ millis ∈ printed.millis?, millis < 1000) :
    Text.utf8Length (number.render culture printed) = number.renderedLength culture printed := by
  have sign : Text.utf8Length (if printed.negative then culture.negativeSign.toList else []) =
      if printed.negative then culture.negativeSign.utf8ByteSize else 0 := by
    split
    · exact Text.utf8Length_toList culture.negativeSign
    · rfl
  have whole : Text.utf8Length (Text.padded culture.zeroDigit number.minDigits printed.whole) = _ :=
    Text.utf8Length_padded alike number.minDigits printed.whole
  unfold render renderedLength
  simp only [Text.utf8Length_append, sign, whole, Nat.max_comm]
  cases fraction : printed.millis? with
  | none =>
      rw [Text.utf8Length_nil, Option.isSome_none, if_neg Bool.false_ne_true]
      omega
  | some thousandths =>
      have three : Text.utf8Length (Text.padded culture.zeroDigit 3 thousandths) = _ :=
        Text.utf8Length_padded_of_lt alike (by decide) (millis thousandths fraction)
      rw [Text.utf8Length_append, Text.utf8Length_toList, three, Option.isSome_some, if_pos rfl]
      omega

theorem lengthHint_describes (even : context.IsEven) (number : NumberField) :
    (number.lengthHint context).Describes (Text.utf8Length (number.print context))
      (number.selector.periodField?.isNone = false) := by
  unfold lengthHint print
  cases shown : number.printed? context with
  | none => exact LengthHint.describes_exact 0
  | some printed =>
      have length : Text.utf8Length (number.render context.culture printed) = _ :=
        utf8Length_render even.digits (millis_printed? shown)
      dsimp only
      rw [length]
      split
      · exact LengthHint.describes_exact _
      · next component selected =>
          rw [selected]
          exact ⟨LengthHint.bounds_between (Nat.le_max_right _ _), fun known => nomatch known⟩

end NumberField

namespace NameField

theorem lengthHint_eq_exact (name : NameField) (context : PrintContext) :
    name.lengthHint context = .exact (Text.utf8Length (name.print context)) := by
  unfold lengthHint print
  cases context.fieldValue? name.field with
  | none => rfl
  | some value =>
      dsimp only
      split
      · rw [Text.utf8Length_toList]
      · rw [Text.utf8Length_integer]

end NameField

namespace FractionField

theorem utf8Length_print {context : PrintContext} (even : context.IsEven)
    {fraction : FractionField} (positive : 0 < fraction.digits) (few : fraction.digits ≤ 9) :
    Text.utf8Length (fraction.print context) =
      fraction.digits * context.culture.zeroDigit.utf8Size := by
  have small : ((context.fieldValue? .nanoOfSecond).getD 0).natAbs < 10 ^ 9 := by
    cases shown : context.fieldValue? .nanoOfSecond with
    | none => decide
    | some value =>
        obtain ⟨least, greatest⟩ := even.nanosecond value shown
        rw [Option.getD_some]
        omega
  have split : 10 ^ (9 - fraction.digits) * 10 ^ fraction.digits = 10 ^ 9 := by
    rw [← Nat.pow_add, Nat.sub_add_cancel few]
  refine Text.utf8Length_padded_of_lt even.digits positive (Nat.div_lt_of_lt_mul ?_)
  exact split.symm ▸ small

end FractionField

theorem TwoDigitYear.utf8Length_print {context : PrintContext} (even : context.IsEven)
    (year : TwoDigitYear) :
    Text.utf8Length (year.print context) = 2 * context.culture.zeroDigit.utf8Size := by
  refine Text.utf8Length_padded_of_lt even.digits (by decide) ?_
  omega

namespace OffsetStyle

theorem utf8Length_separator (style : OffsetStyle) :
    Text.utf8Length style.separator?.toList = style.separator?.toList.length := by
  cases style <;> rfl

theorem utf8Length_render (style : OffsetStyle) (offset : Offset) :
    Text.utf8Length (offset.render style.separator?) =
      3 + if offset.seconds % 60 = 0 then 2 + style.separator?.toList.length
        else 2 * (2 + style.separator?.toList.length) := by
  have two {value : Nat} (small : value < 100) : Text.utf8Length (Text.padded '0' 2 value) = 2 :=
    Text.utf8Length_padded_of_lt Text.digitsAlike_ascii (by decide) small
  obtain ⟨hours, minutes, seconds⟩ := offset.components_lt
  have sign : (if offset.seconds < 0 then '-' else '+').utf8Size = 1 := by
    split <;> rfl
  have whole : offset.components.2.2 = 0 ↔ offset.seconds % 60 = 0 := by
    simp only [Offset.components]
    omega
  rw [Offset.render_eq, Text.utf8Length_cons, sign, Offset.renderParts, Text.utf8Length_append,
    Text.utf8Length_append, Text.utf8Length_append, utf8Length_separator, two hours,
    two (minutes.trans (by decide))]
  by_cases none : offset.components.2.2 = 0
  · rw [if_pos none, if_pos (whole.mp none), Text.utf8Length_nil]
    omega
  · rw [if_neg none, if_neg (mt whole.mpr none), Text.utf8Length_append, utf8Length_separator,
      two (seconds.trans (by decide))]
    omega

theorem lengthHint_eq_exact (style : OffsetStyle) (context : PrintContext) :
    style.lengthHint context = .exact (Text.utf8Length (style.print context)) := by
  unfold lengthHint print
  cases context.offset? with
  | none => rfl
  | some offset =>
      dsimp only
      rw [utf8Length_render]

end OffsetStyle

/-! ## Trees -/

namespace Element

mutual

/-- Whether there is a number anywhere in the element that stands for a component of a date-time. -/
def hasDateTimeNumber : Element → Bool
  | .number field => field.selector.periodField?.isNone
  | .composite elements => anyHasDateTimeNumber elements
  | .literal _ | .name _ | .fraction _ | .twoDigitYear _ | .offset _ | .separator _ => false

def anyHasDateTimeNumber : List Element → Bool
  | [] => false
  | element :: rest => element.hasDateTimeNumber || anyHasDateTimeNumber rest

end

variable {context : PrintContext}

theorem lengthHintFrom_separator (context : PrintContext) (before : Nat) (between : Separator)
    (rest : List Element) :
    lengthHintFrom context before (.separator between :: rest) =
      .exact ((between.textBetween? before (fieldCountOf context rest)).getD "").utf8ByteSize
        + lengthHintFrom context 0 rest := by
  rw [lengthHintFrom]

theorem lengthHintFrom_element (context : PrintContext) (before : Nat) {element : Element}
    (plain : ¬ IsSeparator element) (rest : List Element) :
    lengthHintFrom context before (element :: rest) =
      lengthHint context element
        + lengthHintFrom context (before + fieldCount context element) rest := by
  rw [lengthHintFrom]
  exact fun between same => plain ⟨between, same⟩

mutual

/-- Only the components of a date-time leave the hint of an element open. -/
theorem lengthHint_describes (even : context.IsEven) :
    ∀ element : Element, element.FractionsFit →
      (lengthHint context element).Describes (Text.utf8Length (print context element))
        (element.hasDateTimeNumber = false)
  | .literal text, _ => by
    rw [lengthHint, print, Literal.print, Text.utf8Length_toList]
    exact LengthHint.describes_exact _
  | .number field, _ => by
    rw [lengthHint, print]
    exact NumberField.lengthHint_describes even field
  | .name field, _ => by
    rw [lengthHint, print, NameField.lengthHint_eq_exact]
    exact LengthHint.describes_exact _
  | .fraction field, fit => by
    rw [lengthHint, print, FractionField.utf8Length_print even fit.1 fit.2]
    exact LengthHint.describes_exact _
  | .twoDigitYear field, _ => by
    rw [lengthHint, print, TwoDigitYear.utf8Length_print even]
    exact LengthHint.describes_exact _
  | .offset style, _ => by
    rw [lengthHint, print, OffsetStyle.lengthHint_eq_exact]
    exact LengthHint.describes_exact _
  | .separator between, _ => by
    rw [lengthHint, print]
    exact LengthHint.describes_exact 0
  | .composite elements, fit => by
    rw [lengthHint, print]
    exact lengthHintFrom_describes even elements fit 0

theorem lengthHintFrom_describes (even : context.IsEven) :
    ∀ elements : List Element, AllFractionsFit elements → ∀ before,
      (lengthHintFrom context before elements).Describes
        (Text.utf8Length (printFrom context before elements))
        (anyHasDateTimeNumber elements = false)
  | [], _, before => by
    rw [lengthHintFrom, printFrom]
    exact LengthHint.describes_exact 0
  | element :: rest, fit, before => by
    by_cases separator : IsSeparator element
    · obtain ⟨between, rfl⟩ := separator
      rw [lengthHintFrom_separator, printFrom_separator, Text.utf8Length_append,
        Text.utf8Length_toList]
      refine (@LengthHint.describes_exact _ True).add (lengthHintFrom_describes even rest fit.2 0) ?_
      exact fun known => ⟨trivial, known⟩
    · rw [lengthHintFrom_element context before separator,
        printFrom_element context before separator, Text.utf8Length_append]
      refine (lengthHint_describes even element fit.1).add
        (lengthHintFrom_describes even rest fit.2 _) ?_
      exact Bool.or_eq_false_iff.mp

end

end Element

namespace FormatTree

/-- The hint of a tree that a builder made bounds the text that is printed. As long as the length of
the text can be counted, the space that is set aside is enough for it, and without numbers of a
date-time the hint is the length. -/
theorem lengthHint_bounds_print {tree : FormatTree} (built : tree.IsBuilt) {context : PrintContext}
    (even : context.IsEven) :
    let length := (String.ofList (tree.print context)).utf8ByteSize
    let hint := tree.lengthHint context
    hint.lower ≤ length ∧ (∀ bound ∈ hint.upper, length ≤ bound) ∧
      (length ≤ maxLength → length ≤ hint.capacity ∧
        (Element.anyHasDateTimeNumber tree.elements = false → hint = .exact length)) := by
  intro length hint
  have described : hint.Describes (Text.utf8Length (tree.print context)) _ :=
    Element.lengthHint_describes even (.composite tree.elements) built.allFractionsFit
  have size : Text.utf8Length (tree.print context) =
      (String.ofList (tree.print context)).utf8ByteSize := by
    rw [← Text.utf8Length_toList, String.toList_ofList]
  rw [size] at described
  refine ⟨described.bounds.lower_le, described.bounds.upper, fun countable => ⟨?_, ?_⟩⟩
  · exact described.bounds.le_capacity countable
  · exact fun known => described.exact known countable

/-- A year, an offset and the ISO form of periods in one tree, in digits of two bytes. -/
theorem lengthHint_bounds_print_nested :
    let inner : FormatTree := ⟨0, PeriodFormatter.isoBuilder.finishedElements⟩
    let outer : FormatTree := ⟨1, [.number (.ofDateTime .year 4 6), .offset .extended,
      .fraction ⟨3⟩, .composite inner.elements]⟩
    let culture := { Culture.invariant with zeroDigit := '\u0660' }
    let value : LocalDateTime := ⟨⟨-44, 3, 15⟩, ⟨12, 0, 0, 5000000⟩⟩
    let context : PrintContext := ⟨culture, .dateTime value (some .utc) (Iso.calendar 0)⟩
    outer.IsBuilt ∧ context.IsEven ∧
      (let length := (String.ofList (outer.print context)).utf8ByteSize
      let hint := outer.lengthHint context
      hint.lower ≤ length ∧ (∀ bound ∈ hint.upper, length ≤ bound) ∧
        (length ≤ maxLength → length ≤ hint.capacity ∧
          (Element.anyHasDateTimeNumber outer.elements = false → hint = .exact length))) := by
  intro inner outer culture value context
  have built : outer.IsBuilt := by
    have innerBuilt : inner.IsBuilt := .period PeriodFormatter.isoBuilder_reachable rfl
    have number : DateTimeBuilder.Reachable ⟨outer.elements.take 1⟩ :=
      .operation .new (rfl : ({} : DateTimeBuilder).perform (.number .year 4) = .ok _)
    have offset : DateTimeBuilder.Reachable ⟨outer.elements.take 2⟩ :=
      .operation number (rfl : DateTimeBuilder.perform _ (.offset .extended) = .ok _)
    have fraction : DateTimeBuilder.Reachable ⟨outer.elements.take 3⟩ :=
      .operation offset (rfl : DateTimeBuilder.perform _ (.fraction 3) = .ok _)
    let formatter : DateTimeFormatter := { printer? := some inner, parser? := none }
    have appended : DateTimeBuilder.Reachable ⟨outer.elements⟩ :=
      .formatter fraction innerBuilt (rfl : formatter.printer?.or formatter.parser? = some inner) rfl
    exact .dateTime appended
  have even : context.IsEven := by
    refine ⟨by decide, ?_⟩
    intro nanosecond shown
    cases shown
    decide
  exact ⟨built, even, lengthHint_bounds_print built even⟩

end FormatTree

end ChronoText
