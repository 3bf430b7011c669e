import ChronoText.Formatter.DateTime
import ChronoText.Proofs.Parsing.Components

/-! Formats of patterns read back what they print. A pattern of fixed text, numbers and fractions
whose numbers cannot run into each other loses nothing of a date but the parts of the time that it
does not print, whatever text without a leading digit follows. -/

set_option autoImplicit false

namespace ChronoText

inductive Element.IsPlain : Element → Prop where
  | literal {literal} : IsPlain (.literal literal)
  | number {number} : IsPlain (.number number)
  | fraction {fraction} : IsPlain (.fraction fraction)

def Culture.invariantFrom (zero : Char) : Culture :=
  { invariant with zeroDigit := zero }

theorem Culture.invariantFrom_writesPlainNumbers {zero : Char} (digits : Text.IsZeroDigit zero) :
    (invariantFrom zero).WritesPlainNumbers :=
  ⟨digits, rfl, rfl, rfl⟩

namespace Pattern

/-- Every number without a fixed width is the last element, or stands right before fixed text that
starts with no digit. -/
def NumbersEnd (culture : Culture) : List Element → Prop
  | [] => True
  | .number number :: rest =>
    (number.fixedWidth = true ∨ rest = [] ∨
      ∃ literal others, rest = .literal literal :: others ∧ literal.EndsDigits culture) ∧
      NumbersEnd culture rest
  | _ :: rest => NumbersEnd culture rest

/-- No number with a fixed width has more digits than its width. -/
def WidthsSuffice (value : LocalDateTime) (elements : List Element) : Prop :=
  ∀ number field, .number number ∈ elements → number.fixedWidth = true →
    number.selector = .dateTime field →
      Text.digitCount (Iso.fieldValue value field).natAbs ≤ number.minDigits

theorem WidthsSuffice.tail {value : LocalDateTime} {element : Element} {rest : List Element}
    (suffice : WidthsSuffice value (element :: rest)) : WidthsSuffice value rest :=
  fun number field member => suffice number field (List.mem_cons_of_mem element member)

theorem delimited_of_numbersEnd {culture : Culture} {value : LocalDateTime} {tail : List Char}
    {elements : List Element} (plain : ∀ element ∈ elements, element.IsPlain)
    (ends : NumbersEnd culture elements) (suffice : WidthsSuffice value elements)
    (stop : Text.startsWithDigit culture.zeroDigit tail = false) :
    Delimited culture value tail elements := by
  induction elements with
  | nil => exact .nil
  | cons element rest ih =>
      obtain ⟨own, others⟩ := List.forall_mem_cons.mp plain
      cases own with
      | literal => exact .literal (ih others ends suffice.tail)
      | fraction => exact .fraction (ih others ends suffice.tail)
      | @number number =>
          obtain ⟨ended, laterEnd⟩ := ends
          have later := ih others laterEnd suffice.tail
          cases width : number.fixedWidth with
          | true =>
              exact .fixed width (fun field => suffice number field List.mem_cons_self width) later
          | false =>
              rcases ended with fixed | rfl | ⟨literal, behind, rfl, noDigit⟩
              · exact absurd (width ▸ fixed) Bool.false_ne_true
              · exact .lastNumber width stop
              · exact .beforeText width noDigit later

theorem anyRequiresOffset_eq_false {elements : List Element}
    (plain : ∀ element ∈ elements, element.IsPlain) :
    Element.anyRequiresOffset elements = false := by
  induction elements with
  | nil => rfl
  | cons element rest ih =>
      obtain ⟨own, others⟩ := List.forall_mem_cons.mp plain
      rw [Element.anyRequiresOffset, ih others]
      cases own <;> rfl

end Pattern

namespace DateTimeFormatter

open Pattern

/-- A format of fixed text, numbers and fractions, among them the year, the month and the day of the
month and no hour of the half day or clock hour, takes from any text just what it printed before it,
records each component it printed, and makes of them the date-time as far as it was printed. -/
theorem parseFrom_printLocal {handle : Nat} {compiledIn : Culture} {pattern : String}
    {elements : List Element} (compiled : Pattern.elements compiledIn pattern = .ok elements)
    (plain : ∀ element ∈ elements, element.IsPlain) (year : hasNumber elements .year = true)
    (month : hasNumber elements .monthOfYear = true) (day : hasNumber elements .dayOfMonth = true)
    (noHourOfHalfDay : hasNumber elements .hourOfHalfDay = false)
    (noClockHourOfHalfDay : hasNumber elements .clockHourOfHalfDay = false)
    (noClockHour : hasNumber elements .clockHourOfDay = false) {zero : Char}
    (digits : Text.IsZeroDigit zero) (ends : NumbersEnd (.invariantFrom zero) elements)
    {value : LocalDateTime} (valid : value.IsValid) (suffice : WidthsSuffice value elements)
    {rest : String} (stop : Text.startsWithDigit zero rest.toList = false) :
    ∃ formatter text,
      ofPattern handle compiledIn pattern = .ok formatter ∧
      (formatter.withCulture (.invariantFrom zero)).printLocal value = .ok text ∧
      (formatter.withCulture (.invariantFrom zero)).parseFrom (text ++ rest) 0 =
        .ok (.advanced ⟨Text.utf8Length text.toList, rest.toList⟩,
          ⟨recordedBucket elements value none, none⟩) ∧
      (recordedBucket elements value none).toLocal = .ok (kept elements value) := by
  let tree : FormatTree := ⟨handle, elements⟩
  let formatter : DateTimeFormatter :=
    { printer? := some tree, parser? := some tree, culture := compiledIn }
  let context : PrintContext := (formatter.withCulture (.invariantFrom zero)).printContext value none
  have known := elements_isCompiled compiled
  have noOffset := anyRequiresOffset_eq_false plain
  have legible : Legible (formatter.withCulture (.invariantFrom zero)).parseSettings context
      rest.toList 0 false elements (elements.foldl (record value none)) :=
    (delimited_of_numbersEnd plain ends suffice stop).legible known
      (Culture.invariantFrom_writesPlainNumbers digits) rfl rfl rfl valid
      (fun offset => absurd (noOffset ▸ offset) Bool.false_ne_true) 0 false
  have recorded : elements.foldl (record value none) .empty = recordedBucket elements value none :=
    foldl_record_empty known
  have readBack := legible.readsBack 0 {}
  rw [recorded, Nat.zero_add] at readBack
  refine ⟨formatter, String.ofList (tree.print context), ?made, ?printed, ?read, ?kept⟩
  case made =>
    rw [ofPattern, compiled]
    rfl
  case printed =>
    have noOffset : tree.requiresOffset = false := noOffset
    simp only [printLocal, formatter, withCulture, requirePrinter, zone?, noOffset, bind, Except.bind,
      pure, Except.pure, Bool.false_eq_true, if_false]
    rfl
  case read =>
    have text : (String.ofList (tree.print context) ++ rest).toList =
        Element.print context (.composite elements) ++ rest.toList := by
      rw [String.toList_append, String.toList_ofList]
      rfl
    simp only [parseFrom, formatter, withCulture, requireParser, text, Element.parseAt,
      Cursor.seek_zero, Cursor.start, bind, Except.bind, pure, Except.pure, String.toList_ofList]
    exact congrArg Except.ok readBack
  case kept =>
    exact toLocal_of_recorded known valid year month day noHourOfHalfDay noClockHourOfHalfDay
      noClockHour

/-- The elements of a date without separators, a blank and a time to the millisecond. -/
def compactElements : List Element :=
  [.number { NumberField.ofDateTime .year 4 6 with fixedWidth := true },
    .number { NumberField.ofDateTime .monthOfYear 2 2 with fixedWidth := true },
    .number (.ofDateTime .dayOfMonth 2 2), .literal ⟨.plain, " "⟩,
    .number (.ofDateTime .hourOfDay 2 2), .literal .timeSeparator,
    .number (.ofDateTime .minuteOfHour 2 2), .literal .timeSeparator,
    .number (.ofDateTime .secondOfMinute 2 2), .literal .decimalSeparator, .fraction ⟨3⟩]

theorem parseFrom_printLocal_compact :
    ∃ formatter text,
      ofPattern 0 .invariant "yyyyMMdd HH:mm:ss.SSS" = .ok formatter ∧
      (formatter.withCulture (.invariantFrom '٠')).printLocal
        ⟨⟨2024, 2, 29⟩, ⟨12, 34, 56, 789123456⟩⟩ = .ok text ∧
      (formatter.withCulture (.invariantFrom '٠')).parseFrom (text ++ "Z") 0 =
        .ok (.advanced ⟨Text.utf8Length text.toList, "Z".toList⟩,
          ⟨recordedBucket compactElements ⟨⟨2024, 2, 29⟩, ⟨12, 34, 56, 789123456⟩⟩ none, none⟩) ∧
      (recordedBucket compactElements ⟨⟨2024, 2, 29⟩, ⟨12, 34, 56, 789123456⟩⟩ none).toLocal =
        .ok ⟨⟨2024, 2, 29⟩, ⟨12, 34, 56, 789000000⟩⟩ := by
  refine parseFrom_printLocal ?compiled ?plain (by decide)
    (by decide) (by decide) (by decide) (by decide) (by decide) (by decide) ?ends
    ?valid ?suffice (by decide)
  case compiled => cbv
  case plain =>
    intro element member
    simp only [compactElements, List.mem_cons, List.not_mem_nil, or_false] at member
    rcases member with rfl | rfl | rfl | rfl | rfl | rfl | rfl | rfl | rfl | rfl | rfl <;>
      constructor
  case ends =>
    have blank : Literal.EndsDigits (.invariantFrom '٠') ⟨.plain, " "⟩ :=
      ⟨' ', [], rfl, by decide⟩
    have colon : Literal.EndsDigits (.invariantFrom '٠') .timeSeparator :=
      ⟨':', [], rfl, by decide⟩
    have point : Literal.EndsDigits (.invariantFrom '٠') .decimalSeparator :=
      ⟨'.', [], rfl, by decide⟩
    exact ⟨.inl rfl, .inl rfl, .inr (.inr ⟨_, _, rfl, blank⟩), .inr (.inr ⟨_, _, rfl, colon⟩),
      .inr (.inr ⟨_, _, rfl, colon⟩), .inr (.inr ⟨_, _, rfl, point⟩), trivial⟩
  case valid =>
    exact ⟨⟨by decide, by decide, by decide, by decide, by decide, by decide⟩,
      ⟨by decide, by decide, by decide, by decide⟩⟩
  case suffice =>
    intro number field member fixed selected
    simp only [compactElements, List.mem_cons, List.not_mem_nil, or_false, reduceCtorEq,
      false_or, Element.number.injEq] at member
    rcases member with rfl | rfl | rfl | rfl | rfl | rfl
    · cases selected
      decide +kernel
    · cases selected
      decide +kernel
    all_goals cases fixed

end DateTimeFormatter

end ChronoText
