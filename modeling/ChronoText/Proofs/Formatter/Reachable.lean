import ChronoText.Formatter.DateTimeBuilder
import ChronoText.Formatter.PeriodBuilder
import ChronoText.Proofs.Formatter.PeriodLayouts
import ChronoText.Proofs.Parsing.Resolution
import ChronoText.Proofs.Pattern.Compiled

/-! Trees that builders make. A builder starts out empty and gets on by the operations it accepts,
one of which appends the whole tree of a formatter. Such a tree was made by a builder of either kind,
as a formatter of one kind can be put together from the printer of the other. What an operation that
a builder of period formats accepts has found and done is stated here once for each. -/

set_option autoImplicit false

namespace ChronoText

/-! ## Operations of builders -/

namespace DateTimeBuilder

/-- What a builder of date-time formats does, the appending of other formats apart. -/
inductive Operation where
  | number (field : DateTimeField) (minDigits : Nat)
  | name (field : DateTimeField) (width : NameWidth)
  | offset (style : OffsetStyle)
  | character (c : Char)
  | literal (text : String)
  | timeSeparator
  | dateSeparator
  | decimalSeparator
  | decimal (field : DateTimeField) (minDigits maxDigits : Nat)
  | fixedDecimal (field : DateTimeField) (digits : Nat)
  | twoDigitYear (field : DateTimeField)
  | fraction (digits : Nat)
  | pattern (culture : Culture) (pattern : String)

def perform (builder : DateTimeBuilder) : Operation → Except FormatError DateTimeBuilder
  | .number field minDigits => pure (builder.appendNumber field minDigits)
  | .name field width => pure (builder.appendName field width)
  | .offset style => pure (builder.appendOffset style)
  | .character c => pure (builder.appendCharacter c)
  | .literal text => builder.appendLiteral text
  | .timeSeparator => pure builder.appendTimeSeparator
  | .dateSeparator => pure builder.appendDateSeparator
  | .decimalSeparator => pure builder.appendDecimalSeparator
  | .decimal field minDigits maxDigits => builder.appendDecimal field minDigits maxDigits
  | .fixedDecimal field digits => builder.appendFixedDecimal field digits
  | .twoDigitYear field => builder.appendTwoDigitYear field
  | .fraction digits => builder.appendFraction digits
  | .pattern culture pattern => builder.appendPattern culture pattern

end DateTimeBuilder

namespace PeriodBuilder

/-- What a builder of period formats does, the appending of other formats apart. The first four
operations change a setting for the units that come later. -/
inductive Operation where
  | zeroPolicy (policy : ZeroPolicy)
  | minPrintedDigits (digits : Nat)
  | maxParsedDigits (digits : Nat)
  | rejectSigned (reject : Bool)
  | unit (unit : PeriodField)
  | secondsWithOptionalMillis
  | leading (text : String)
  | pluralLeading (one many : String)
  | trailing (text : String)
  | pluralTrailing (one many : String)
  | literal (text : String)
  | separator (text : String)
  | separatorWithFinal (text finalText : String)
  | separatorIfFieldsAfter (text : String)
  | separatorIfFieldsBefore (text : String)

def perform (builder : PeriodBuilder) : Operation → Except FormatError PeriodBuilder
  | .zeroPolicy policy => pure { builder with zeroPolicy := policy }
  | .minPrintedDigits digits => pure { builder with minPrintedDigits := digits }
  | .maxParsedDigits digits => pure { builder with maxParsedDigits := digits }
  | .rejectSigned reject => pure { builder with rejectSigned := reject }
  | .unit unit => pure (builder.appendUnit unit)
  | .secondsWithOptionalMillis => pure builder.appendSecondsWithOptionalMillis
  | .leading text => builder.appendPrefix text
  | .pluralLeading one many => builder.appendPluralPrefix one many
  | .trailing text => builder.appendSuffix text
  | .pluralTrailing one many => builder.appendPluralSuffix one many
  | .literal text => builder.appendLiteral text
  | .separator text => builder.appendSeparator text
  | .separatorWithFinal text finalText => builder.appendSeparatorWithFinal text finalText
  | .separatorIfFieldsAfter text => builder.appendSeparatorIfFieldsAfter text
  | .separatorIfFieldsBefore text => builder.appendSeparatorIfFieldsBefore text

end PeriodBuilder

/-! ## Reachable builders and their trees -/

mutual

inductive DateTimeBuilder.Reachable : DateTimeBuilder → Prop where
  | new : DateTimeBuilder.Reachable {}
  | operation {builder next : DateTimeBuilder} {operation : DateTimeBuilder.Operation} :
      DateTimeBuilder.Reachable builder → builder.perform operation = .ok next →
      DateTimeBuilder.Reachable next
  | formatter {builder next : DateTimeBuilder} {formatter : DateTimeFormatter}
      {tree : FormatTree} :
      DateTimeBuilder.Reachable builder → FormatTree.IsBuilt tree →
      formatter.printer?.or formatter.parser? = some tree →
      builder.appendFormatter formatter = .ok next → DateTimeBuilder.Reachable next

inductive PeriodBuilder.Reachable : PeriodBuilder → Prop where
  | new : PeriodBuilder.Reachable {}
  | operation {builder next : PeriodBuilder} {operation : PeriodBuilder.Operation} :
      PeriodBuilder.Reachable builder → builder.perform operation = .ok next →
      PeriodBuilder.Reachable next
  | formatter {builder next : PeriodBuilder} {formatter : PeriodFormatter}
      {tree : FormatTree} :
      PeriodBuilder.Reachable builder → FormatTree.IsBuilt tree →
      formatter.printer?.or formatter.parser? = some tree →
      builder.appendFormatter formatter = .ok next → PeriodBuilder.Reachable next

/-- A builder made the tree. -/
inductive FormatTree.IsBuilt : FormatTree → Prop where
  | dateTime {builder : DateTimeBuilder} {handle : Nat} :
      DateTimeBuilder.Reachable builder → FormatTree.IsBuilt (builder.tree handle)
  | period {builder : PeriodBuilder} {handle : Nat} {tree : FormatTree} :
      PeriodBuilder.Reachable builder → builder.tree handle = .ok tree → FormatTree.IsBuilt tree

end

/-- What each step keeps, accepted steps in turn keep. -/
theorem holds_of_foldlM {State Step : Type} {perform : State → Step → Except FormatError State}
    {Holds : State → Prop}
    (keeps : ∀ {state step next}, Holds state → perform state step = .ok next → Holds next)
    {start final : State} (starts : Holds start) (steps : List Step)
    (accepted : steps.foldlM perform start = .ok final) : Holds final := by
  induction steps generalizing start with
  | nil =>
      cases accepted
      exact starts
  | cons step steps ih =>
      rw [List.foldlM_cons] at accepted
      obtain ⟨between, first, others⟩ := bind_ok accepted
      exact ih (keeps starts first) others

/-- Operations in turn, each of them accepted. -/
theorem PeriodBuilder.Reachable.operations {builder next : PeriodBuilder}
    (reachable : builder.Reachable) (operations : List PeriodBuilder.Operation)
    (accepted : operations.foldlM PeriodBuilder.perform builder = .ok next) : next.Reachable :=
  holds_of_foldlM .operation reachable operations accepted

/-- The ISO form of periods is among what builders make. -/
theorem PeriodFormatter.isoBuilder_reachable : isoBuilder.Reachable :=
  PeriodBuilder.Reachable.operations .new
    [.literal "P", .unit .years, .trailing "Y", .unit .months, .trailing "M", .unit .weeks,
      .trailing "W", .unit .days, .trailing "D", .separatorIfFieldsAfter "T", .unit .hours,
      .trailing "H", .unit .minutes, .trailing "M", .secondsWithOptionalMillis, .trailing "S"]
    rfl

/-! ## Accepted operations -/

namespace PeriodBuilder

variable {builder next : PeriodBuilder}

theorem given_of_requireText {name text : String} {done : Unit}
    (accepted : requireText name text = .ok done) : text ≠ "" := by
  rintro rfl
  cases accepted

theorem free_of_requireNothingWaiting {done : Unit}
    (accepted : builder.requireNothingWaiting = .ok done) : builder.waiting? = none := by
  unfold requireNothingWaiting at accepted
  split at accepted
  · cases accepted
  · next free => exact Option.not_isSome_iff_eq_none.mp free

theorem setLeading_ok {affix : Affix} (accepted : builder.setLeading affix = .ok next) :
    (∀ literal, builder.elements.getLast? ≠ some (.literal literal)) ∧
      next = { builder with waiting? := some affix } := by
  unfold setLeading at accepted
  split at accepted
  · cases accepted
  · split at accepted
    · cases accepted
    · next noLiteral =>
        cases accepted
        exact ⟨noLiteral, rfl⟩

theorem setTrailing_ok {affix : Affix} (accepted : builder.setTrailing affix = .ok next) :
    builder.waiting? = none ∧ ∃ before number,
      builder.elements = before ++ [.number number] ∧
        next = { builder with
          elements := before ++ [.number { number with trailing := some affix }] } := by
  obtain ⟨_, free, accepted⟩ := bind_ok accepted
  refine ⟨free_of_requireNothingWaiting free, ?_⟩
  split at accepted
  · next number last =>
      obtain ⟨before, elements⟩ := List.getLast?_eq_some_iff.mp last
      split at accepted
      · cases accepted
      · cases accepted
        refine ⟨before, number, elements, ?_⟩
        rw [replaceLast, elements, List.dropLast_concat]
  · cases accepted

theorem appendLiteral_ok {text : String} (accepted : builder.appendLiteral text = .ok next) :
    text ≠ "" ∧ builder.waiting? = none ∧ next = builder.append (.literal ⟨.given, text⟩) := by
  obtain ⟨_, given, accepted⟩ := bind_ok accepted
  obtain ⟨_, free, accepted⟩ := bind_ok accepted
  cases accepted
  exact ⟨given_of_requireText given, free_of_requireNothingWaiting free, rfl⟩

/-- A separator is dropped where there is nothing before it and it asks for something, and is
otherwise appended. -/
theorem addSeparator_ok {between : Separator} (accepted : builder.addSeparator between = .ok next) :
    between.text ≠ "" ∧ builder.waiting? = none ∧
      ((builder.elements = [] ∧ between.mode.needsBefore = true ∧ next = builder) ∨
        ((builder.elements = [] → between.mode.needsBefore = false) ∧
          (∀ other, builder.elements.getLast? ≠ some (.separator other)) ∧
          next = builder.append (.separator between))) := by
  obtain ⟨_, given, accepted⟩ := bind_ok accepted
  obtain ⟨_, free, accepted⟩ := bind_ok accepted
  refine ⟨given_of_requireText given, free_of_requireNothingWaiting free, ?_⟩
  split at accepted
  · cases accepted
  · next nothing =>
      have empty := List.getLast?_eq_none_iff.mp nothing
      split at accepted
      · next needed =>
          cases accepted
          exact .inl ⟨empty, needed, rfl⟩
      · next spare =>
          cases accepted
          refine .inr ⟨fun _ => Bool.eq_false_of_not_eq_true spare, ?_, rfl⟩
          simp [nothing]
  · next last noSeparator found =>
      cases accepted
      refine .inr ⟨fun empty => ?_, fun other same => ?_, rfl⟩
      · rw [empty] at found
        cases found
      · exact noSeparator other (Option.some.inj (found.symm.trans same))

theorem appendFormatter_ok {formatter : PeriodFormatter}
    (accepted : builder.appendFormatter formatter = .ok next) :
    builder.waiting? = none ∧ ∃ tree, formatter.printer?.or formatter.parser? = some tree ∧
      next = builder.append (.composite tree.elements) := by
  obtain ⟨_, free, accepted⟩ := bind_ok accepted
  refine ⟨free_of_requireNothingWaiting free, ?_⟩
  split at accepted
  · next tree given =>
      cases accepted
      exact ⟨tree, given, rfl⟩
  · cases accepted

end PeriodBuilder

end ChronoText
