import ChronoText.Proofs.Formatter.SoundBuilders
import ChronoText.Proofs.Parsing.Faithful
import ChronoText.Proofs.Printing.Lengths

/-! Formats inside formats, taken apart. Elements that are no separators heed neither what stands
around them nor how deep they stand, so a format without separators can be replaced by its elements
wherever it stands inside another. Taken apart like this from the outside in, a format without
separators does what it did before. Formats of date-times are of this kind as long as no format of
periods is put into them. -/

set_option autoImplicit false

namespace ChronoText

namespace PeriodFieldSet

theorem empty_union (set : PeriodFieldSet) : empty.union set = set := by
  simp [union, empty]

theorem union_assoc (first second third : PeriodFieldSet) :
    (first.union second).union third = first.union (second.union third) :=
  congrArg mk (BitVec.or_assoc _ _ _)

end PeriodFieldSet

/-! ## Sums of hints -/

namespace LengthHint

theorem addUpper_assoc (first second third : Nat) :
    (addUpper first second).bind (addUpper · third) =
      (addUpper second third).bind (addUpper first) := by
  unfold addUpper
  split <;> split <;> simp only [Option.bind_some, Option.bind_none, Nat.add_assoc] <;>
    rw [if_neg] <;> omega

theorem bind_addUpper_assoc (first second third : Option Nat) :
    ((first.bind fun bound => second.bind (addUpper bound)).bind fun bound =>
        third.bind (addUpper bound)) =
      first.bind fun bound => (second.bind fun bound => third.bind (addUpper bound)).bind
        (addUpper bound) := by
  cases first with
  | none => rfl
  | some first =>
      cases second with
      | none => rfl
      | some second =>
          cases third with
          | none => exact Option.bind_fun_none _
          | some third => exact addUpper_assoc first second third

theorem addUpper_zero_bind (first second : Option Nat) :
    (first.bind fun bound => second.bind (addUpper bound)).bind (addUpper 0) =
      first.bind fun bound => second.bind (addUpper bound) := by
  cases first with
  | none => rfl
  | some first =>
      cases second with
      | none => rfl
      | some second =>
          simp only [Option.bind_some, addUpper]
          split
          · next countable => rw [Option.bind_some, addUpper, Nat.zero_add, if_pos countable]
          · rfl

/-- The lower bounds of three hints add up to the same whichever sum has to be cut off, and their
upper bounds are given up if all three cannot be counted together. -/
theorem add_assoc (first second third : LengthHint) :
    first + second + third = first + (second + third) := by
  obtain ⟨firstLower, firstUpper⟩ := first
  obtain ⟨secondLower, secondUpper⟩ := second
  obtain ⟨thirdLower, thirdUpper⟩ := third
  show mk (min (min (firstLower + secondLower) maxLength + thirdLower) maxLength) _ =
    mk (min (firstLower + min (secondLower + thirdLower) maxLength) maxLength) _
  congr 1
  · omega
  · exact bind_addUpper_assoc firstUpper secondUpper thirdUpper

/-- Before a sum there is nothing left to cut off. -/
theorem exact_zero_add_add (first second : LengthHint) :
    exact 0 + (first + second) = first + second := by
  obtain ⟨firstLower, firstUpper⟩ := first
  obtain ⟨secondLower, secondUpper⟩ := second
  show mk (min (0 + min (firstLower + secondLower) maxLength) maxLength) _ =
    mk (min (firstLower + secondLower) maxLength) _
  congr 1
  · omega
  · exact addUpper_zero_bind firstUpper secondUpper

end LengthHint

namespace Element

/-! ## Formats without separators -/

mutual

/-- No separator stands anywhere in the element. -/
def SeparatorFree : Element → Prop
  | .separator _ => False
  | .composite elements => AllSeparatorFree elements
  | .literal _ | .number _ | .name _ | .fraction _ | .twoDigitYear _ | .offset _ => True

def AllSeparatorFree : List Element → Prop
  | [] => True
  | element :: rest => element.SeparatorFree ∧ AllSeparatorFree rest

end

theorem allSeparatorFree_iff {elements : List Element} :
    AllSeparatorFree elements ↔ ∀ element ∈ elements, element.SeparatorFree := by
  induction elements with
  | nil => simp [AllSeparatorFree]
  | cons element rest ih => simp [AllSeparatorFree, ih]

theorem SeparatorFree.not_isSeparator {element : Element} (free : element.SeparatorFree) :
    ¬ IsSeparator element := by
  rintro ⟨between, rfl⟩
  exact free

theorem AllSeparatorFree.plain {elements : List Element} (free : AllSeparatorFree elements) :
    ∀ element ∈ elements, ¬ IsSeparator element :=
  fun element member => (allSeparatorFree_iff.mp free element member).not_isSeparator

theorem IsPart.separatorFree {element : Element} (part : element.IsPart) :
    element.SeparatorFree := by
  cases part <;> trivial

/-! ## Formats that do the same -/

/-- Two sequences of elements do the same, whatever has been printed or read before them, and say the
same of themselves. -/
structure Alike (first second : List Element) : Prop where
  printFrom : ∀ context before,
    Element.printFrom context before first = Element.printFrom context before second
  lengthHintFrom : ∀ context before,
    Element.lengthHintFrom context before first = Element.lengthHintFrom context before second
  fieldCountOf : ∀ context, Element.fieldCountOf context first = Element.fieldCountOf context second
  parseFrom : ∀ settings segment passed cursor state,
    Element.parseFrom settings segment passed cursor state first =
      Element.parseFrom settings segment passed cursor state second
  periodFieldsOf : Element.periodFieldsOf first = Element.periodFieldsOf second
  anyRequiresOffset : Element.anyRequiresOffset first = Element.anyRequiresOffset second

namespace Alike

variable {first second third : List Element}

theorem refl (elements : List Element) : Alike elements elements :=
  ⟨fun _ _ => rfl, fun _ _ => rfl, fun _ => rfl, fun _ _ _ _ _ => rfl, rfl, rfl⟩

theorem trans (one : Alike first second) (other : Alike second third) : Alike first third where
  printFrom context before := (one.printFrom context before).trans (other.printFrom context before)
  lengthHintFrom context before :=
    (one.lengthHintFrom context before).trans (other.lengthHintFrom context before)
  fieldCountOf context := (one.fieldCountOf context).trans (other.fieldCountOf context)
  parseFrom settings segment passed cursor state :=
    (one.parseFrom settings segment passed cursor state).trans
      (other.parseFrom settings segment passed cursor state)
  periodFieldsOf := one.periodFieldsOf.trans other.periodFieldsOf
  anyRequiresOffset := one.anyRequiresOffset.trans other.anyRequiresOffset

/-- An element in front changes what has been printed or read, but for both in the same way. -/
theorem cons (alike : Alike first second) (element : Element) :
    Alike (element :: first) (element :: second) where
  printFrom context before := by
    by_cases separator : IsSeparator element
    · obtain ⟨between, rfl⟩ := separator
      rw [printFrom_separator, printFrom_separator, alike.fieldCountOf, alike.printFrom]
    · rw [printFrom_element _ _ separator, printFrom_element _ _ separator, alike.printFrom]
  lengthHintFrom context before := by
    by_cases separator : IsSeparator element
    · obtain ⟨between, rfl⟩ := separator
      rw [lengthHintFrom_separator, lengthHintFrom_separator, alike.fieldCountOf,
        alike.lengthHintFrom]
    · rw [lengthHintFrom_element _ _ separator, lengthHintFrom_element _ _ separator,
        alike.lengthHintFrom]
  fieldCountOf context := congrArg (_ + ·) (alike.fieldCountOf context)
  parseFrom settings segment passed cursor state := by
    by_cases separator : IsSeparator element
    · obtain ⟨between, rfl⟩ := separator
      rw [parseFrom_separator, parseFrom_separator, alike.parseFrom]
    · cases read : parse settings cursor state element with
      | mk outcome after =>
          cases outcome with
          | advanced next =>
              rw [parseFrom_element separator read, parseFrom_element separator read,
                alike.parseFrom]
          | failedAt position =>
              rw [parseFrom_failed separator read, parseFrom_failed separator read]
  periodFieldsOf := congrArg element.periodFields.union alike.periodFieldsOf
  anyRequiresOffset := congrArg (element.requiresOffset || ·) alike.anyRequiresOffset

theorem append_left (alike : Alike first second) (front : List Element) :
    Alike (front ++ first) (front ++ second) := by
  induction front with
  | nil => exact alike
  | cons element front ih => exact ih.cons element

end Alike

/-! ## A format in place of another -/

theorem fieldCountOf_append (context : PrintContext) (first second : List Element) :
    fieldCountOf context (first ++ second) =
      fieldCountOf context first + fieldCountOf context second := by
  induction first with
  | nil => exact (Nat.zero_add _).symm
  | cons element first ih => rw [List.cons_append, fieldCountOf, fieldCountOf, ih, Nat.add_assoc]

theorem periodFieldsOf_append (first second : List Element) :
    periodFieldsOf (first ++ second) = (periodFieldsOf first).union (periodFieldsOf second) := by
  induction first with
  | nil => exact (PeriodFieldSet.empty_union _).symm
  | cons element first ih =>
      rw [List.cons_append, periodFieldsOf, periodFieldsOf, ih, PeriodFieldSet.union_assoc]

theorem anyRequiresOffset_append (first second : List Element) :
    anyRequiresOffset (first ++ second) = (anyRequiresOffset first || anyRequiresOffset second) := by
  induction first with
  | nil => exact (Bool.false_or _).symm
  | cons element first ih =>
      rw [List.cons_append, anyRequiresOffset, anyRequiresOffset, ih, Bool.or_assoc]

theorem exact_zero_add_lengthHintFrom (context : PrintContext) (before : Nat)
    (elements : List Element) :
    .exact 0 + lengthHintFrom context before elements = lengthHintFrom context before elements := by
  cases elements with
  | nil =>
      rw [lengthHintFrom]
      exact LengthHint.exact_add_exact (Nat.zero_le _)
  | cons element rest =>
      by_cases separator : IsSeparator element
      · obtain ⟨between, rfl⟩ := separator
        rw [lengthHintFrom_separator, LengthHint.exact_zero_add_add]
      · rw [lengthHintFrom_element _ _ separator, LengthHint.exact_zero_add_add]

section Splice

variable {inner : List Element} (plain : ∀ element ∈ inner, ¬ IsSeparator element)
  (rest : List Element)

include plain

theorem printFrom_append (context : PrintContext) (own before : Nat) :
    printFrom context before (inner ++ rest) =
      printFrom context own inner
        ++ printFrom context (before + fieldCountOf context inner) rest := by
  induction inner generalizing own before with
  | nil => rw [printFrom]; rfl
  | cons element inner ih =>
      obtain ⟨first, others⟩ := List.forall_mem_cons.mp plain
      rw [List.cons_append, printFrom_element _ _ first, printFrom_element _ _ first,
        ih others (own + fieldCount context element), List.append_assoc, fieldCountOf, Nat.add_assoc]

theorem lengthHintFrom_append (context : PrintContext) (own before : Nat) :
    lengthHintFrom context before (inner ++ rest) =
      lengthHintFrom context own inner
        + lengthHintFrom context (before + fieldCountOf context inner) rest := by
  induction inner generalizing own before with
  | nil =>
      rw [lengthHintFrom]
      exact (exact_zero_add_lengthHintFrom context before rest).symm
  | cons element inner ih =>
      obtain ⟨first, others⟩ := List.forall_mem_cons.mp plain
      rw [List.cons_append, lengthHintFrom_element _ _ first, lengthHintFrom_element _ _ first,
        ih others (own + fieldCount context element), LengthHint.add_assoc, fieldCountOf,
        Nat.add_assoc]

/-- What is read behind the elements goes by the separators before them. -/
theorem parseFrom_append (settings : ParseSettings) (own segment : Nat)
    (passed : List PassedSeparator) (cursor : Cursor) (state : ParseState) :
    parseFrom settings segment passed cursor state (inner ++ rest) =
      match parseFrom settings own [] cursor state inner with
      | (.advanced next, after) => parseFrom settings segment passed next after rest
      | failed => failed := by
  induction inner generalizing cursor state with
  | nil =>
      rw [parseFrom]
      rfl
  | cons element inner ih =>
      obtain ⟨first, others⟩ := List.forall_mem_cons.mp plain
      rw [List.cons_append]
      cases read : parse settings cursor state element with
      | mk outcome after =>
          cases outcome with
          | advanced next =>
              rw [parseFrom_element first read, parseFrom_element first read, ih others]
          | failedAt position =>
              rw [parseFrom_failed first read, parseFrom_failed first read]

/-- A format does the same as its elements in place of it. -/
theorem alike_splice : Alike (.composite inner :: rest) (inner ++ rest) where
  printFrom context before := by
    rw [printFrom_element _ _ (not_isSeparator_composite _), print, fieldCount,
      printFrom_append plain rest context 0 before]
  lengthHintFrom context before := by
    rw [lengthHintFrom_element _ _ (not_isSeparator_composite _), lengthHint, fieldCount,
      lengthHintFrom_append plain rest context 0 before]
  fieldCountOf context := by
    rw [fieldCountOf_append, fieldCountOf, fieldCount]
  parseFrom settings segment passed cursor state := by
    rw [parseFrom_append plain rest settings cursor.position]
    cases inside : parseFrom settings cursor.position [] cursor state inner with
    | mk outcome after =>
        have read : parse settings cursor state (.composite inner) = (outcome, after) := by
          rw [parse, inside]
        cases outcome with
        | advanced next =>
            exact parseFrom_element (not_isSeparator_composite inner) read segment passed rest
        | failedAt position =>
            exact parseFrom_failed (not_isSeparator_composite inner) read segment passed rest
  periodFieldsOf := by
    rw [periodFieldsOf_append, periodFieldsOf, periodFields]
  anyRequiresOffset := by
    rw [anyRequiresOffset_append, anyRequiresOffset, requiresOffset]

end Splice

/-! ## Formats taken apart -/

mutual

/-- The elements that do what the element does, none of them a format. -/
def flatten : Element → List Element
  | .composite elements => flattenAll elements
  | .literal text => [.literal text]
  | .number field => [.number field]
  | .name field => [.name field]
  | .fraction field => [.fraction field]
  | .twoDigitYear year => [.twoDigitYear year]
  | .offset style => [.offset style]
  | .separator between => [.separator between]

/-- The elements with each format among them replaced by its own elements, which are taken apart in
turn. -/
def flattenAll : List Element → List Element
  | [] => []
  | element :: rest => element.flatten ++ flattenAll rest

end

mutual

theorem composite_not_mem_flatten (inner : List Element) :
    ∀ element : Element, .composite inner ∉ element.flatten
  | .composite elements => composite_not_mem_flattenAll inner elements
  | .literal _ | .number _ | .name _ | .fraction _ | .twoDigitYear _ | .offset _
  | .separator _ => by simp [flatten]

theorem composite_not_mem_flattenAll (inner : List Element) :
    ∀ elements : List Element, .composite inner ∉ flattenAll elements
  | [] => List.not_mem_nil
  | element :: rest => by
    rw [flattenAll, List.mem_append, not_or]
    exact ⟨composite_not_mem_flatten inner element, composite_not_mem_flattenAll inner rest⟩

end

mutual

/-- A format is first replaced by its elements, and these are taken apart where they now stand. -/
theorem alike_flatten :
    ∀ element : Element, element.SeparatorFree →
      ∀ rest, Alike (element :: rest) (element.flatten ++ rest)
  | .composite inner, free, rest =>
    (alike_splice free.plain rest).trans (alike_flattenAll inner free rest)
  | .literal _, _, _ | .number _, _, _ | .name _, _, _ | .fraction _, _, _
  | .twoDigitYear _, _, _ | .offset _, _, _ => .refl _

theorem alike_flattenAll :
    ∀ elements : List Element, AllSeparatorFree elements →
      ∀ rest, Alike (elements ++ rest) (flattenAll elements ++ rest)
  | [], _, rest => .refl rest
  | element :: elements, free, rest => by
    rw [flattenAll, List.append_assoc]
    exact ((alike_flattenAll elements free.2 rest).cons element).trans
      (alike_flatten element free.1 _)

end

end Element

/-! ## Formats of date-times -/

namespace DateTimeBuilder

/-- A builder of date-time formats to which no formats were appended but those of such builders. -/
inductive NestsDateTimes : DateTimeBuilder → Prop where
  | new : NestsDateTimes {}
  | operation {builder next : DateTimeBuilder} {operation : Operation} :
      NestsDateTimes builder → builder.perform operation = .ok next → NestsDateTimes next
  | formatter {builder inner next : DateTimeBuilder} {formatter : DateTimeFormatter} {handle : Nat} :
      NestsDateTimes builder → NestsDateTimes inner →
      formatter.printer?.or formatter.parser? = some (inner.tree handle) →
      builder.appendFormatter formatter = .ok next → NestsDateTimes next

theorem NestsDateTimes.operations {builder next : DateTimeBuilder}
    (nests : builder.NestsDateTimes) (operations : List Operation)
    (accepted : operations.foldlM perform builder = .ok next) : next.NestsDateTimes :=
  holds_of_foldlM .operation nests operations accepted

theorem NestsDateTimes.append_composite {builder inner : DateTimeBuilder}
    (nests : builder.NestsDateTimes) (own : inner.NestsDateTimes) :
    (builder.append (.composite inner.elements)).NestsDateTimes :=
  @NestsDateTimes.formatter builder inner _ (inner.formatter 0) 0 nests own rfl rfl

/-- The trees that such builders make have no separators, however deep their formats are nested. -/
theorem NestsDateTimes.allSeparatorFree {builder : DateTimeBuilder}
    (nests : builder.NestsDateTimes) : Element.AllSeparatorFree builder.elements := by
  induction nests with
  | new => trivial
  | operation _ accepted ih =>
      obtain ⟨appended, elements, parts⟩ := perform_ok accepted
      rw [Element.allSeparatorFree_iff] at ih
      rw [elements, Element.allSeparatorFree_iff, List.forall_mem_append]
      exact ⟨ih, fun element member => (parts element member).separatorFree⟩
  | @formatter builder inner _ _ handle _ _ given accepted ih own =>
      rw [appendFormatter, given] at accepted
      cases accepted
      rw [Element.allSeparatorFree_iff] at ih
      rw [append, Element.allSeparatorFree_iff, List.forall_mem_append, List.forall_mem_singleton]
      exact ⟨ih, own⟩

/-- Appending a formatter does the same as appending the elements of its format. -/
theorem appendFormatter_alike {builder next : DateTimeBuilder} {formatter : DateTimeFormatter}
    {tree : FormatTree} (given : formatter.printer?.or formatter.parser? = some tree)
    (free : Element.AllSeparatorFree tree.elements)
    (accepted : builder.appendFormatter formatter = .ok next) :
    Element.Alike next.elements (builder.elements ++ tree.elements) := by
  rw [appendFormatter, given] at accepted
  cases accepted
  have spliced := Element.alike_splice free.plain []
  rw [List.append_nil] at spliced
  exact spliced.append_left builder.elements

end DateTimeBuilder

/-! ## Trees -/

namespace FormatTree

open DateTimeBuilder (NestsDateTimes)

/-- The tree with the formats inside it taken apart. -/
def flatten (tree : FormatTree) : FormatTree :=
  { tree with elements := Element.flattenAll tree.elements }

/-- A tree without separators prints and reads the same with the formats inside it taken apart, also
where reading fails, and says the same of itself. -/
theorem flatten_acts_alike {tree : FormatTree}
    (free : Element.AllSeparatorFree tree.elements) :
    (∀ inner, .composite inner ∉ tree.flatten.elements) ∧
    (∀ context,
      tree.flatten.print context = tree.print context ∧
      tree.flatten.lengthHint context = tree.lengthHint context ∧
      tree.flatten.fieldCount context = tree.fieldCount context) ∧
    (∀ settings cursor state,
      Element.parse settings cursor state (.composite tree.flatten.elements) =
        Element.parse settings cursor state (.composite tree.elements)) ∧
    tree.flatten.periodFields = tree.periodFields ∧
    tree.flatten.requiresOffset = tree.requiresOffset := by
  have alike := Element.alike_flattenAll tree.elements free []
  rw [List.append_nil, List.append_nil] at alike
  refine ⟨fun inner => Element.composite_not_mem_flattenAll inner tree.elements, ?_, ?_,
    alike.periodFieldsOf.symm, alike.anyRequiresOffset.symm⟩
  · intro context
    refine ⟨?_, ?_, (alike.fieldCountOf context).symm⟩
    · rw [print, print, Element.print, Element.print]
      exact (alike.printFrom context 0).symm
    · rw [lengthHint, lengthHint, Element.lengthHint, Element.lengthHint]
      exact (alike.lengthHintFrom context 0).symm
  · intro settings cursor state
    rw [Element.parse, Element.parse]
    exact (alike.parseFrom settings cursor.position [] cursor state).symm

/-- A day and a time, whose minutes and offset are in a format of their own. -/
def dayAndClock : FormatTree where
  handle := 0
  elements :=
    [.number (.ofDateTime .dayOfMonth 2 2),
      .composite [.literal ⟨.given, "T"⟩, .number (.ofDateTime .hourOfDay 2 2),
        .composite [.literal .timeSeparator, .number (.ofDateTime .minuteOfHour 2 2),
          .offset .extended]]]

/-- The minutes that are missing in the innermost format are missing at the same place. -/
theorem flatten_dayAndClock :
    Element.AllSeparatorFree dayAndClock.elements ∧ dayAndClock.flatten.elements.length = 6 ∧
      (Element.parse ⟨.invariant, {}, 2000, .standard⟩ ⟨0, "31T23:Z".toList⟩ {}
        (.composite dayAndClock.elements)).1.position = .failedAt 6 ∧
      Element.parse ⟨.invariant, {}, 2000, .standard⟩ ⟨0, "31T23:Z".toList⟩ {}
          (.composite dayAndClock.flatten.elements) =
        Element.parse ⟨.invariant, {}, 2000, .standard⟩ ⟨0, "31T23:Z".toList⟩ {}
          (.composite dayAndClock.elements) := by
  have minutes : NestsDateTimes ⟨_⟩ :=
    .operations .new [.timeSeparator, .number .minuteOfHour 2, .offset .extended] rfl
  have clock : NestsDateTimes ⟨_⟩ :=
    .operations .new [.character 'T', .number .hourOfDay 2] rfl
  have day : NestsDateTimes ⟨_⟩ := .operations .new [.number .dayOfMonth 2] rfl
  have nests : NestsDateTimes ⟨dayAndClock.elements⟩ :=
    day.append_composite (clock.append_composite minutes)
  have free := nests.allSeparatorFree
  obtain ⟨_, _, read, _⟩ := flatten_acts_alike free
  exact ⟨free, by cbv, by cbv, read _ _ _⟩

/-- A separator sees the units of its own format only, so taken apart a format may have a text that
it lacks inside another. -/
example :
    let unit (field : PeriodField) : Element :=
      .number { selector := .period field, minDigits := 1, maxParsedDigits := 10 }
    let tree : FormatTree :=
      ⟨0, [unit .days, .composite [.separator ⟨", ", ", ", .ifFieldsBefore⟩, unit .hours]]⟩
    tree.print ⟨.invariant, .period .zero⟩ = "00".toList ∧
      tree.flatten.print ⟨.invariant, .period .zero⟩ = "0, 0".toList := by
  constructor <;> cbv

end FormatTree

end ChronoText
