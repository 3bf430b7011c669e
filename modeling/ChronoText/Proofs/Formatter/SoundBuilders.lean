import ChronoText.Proofs.Formatter.Reachable

/-! What holds of every builder that is reached by the operations it accepts. The elements are sound:
fixed text, separators and affixes have a text, and fractions of a second one to nine digits, in the
formats inside a format too. On a builder of period formats two separators never come together, none
that asks for something before it comes first, and an affix before a number never stands behind a
literal, nor does one that still waits for its number. -/

set_option autoImplicit false

namespace ChronoText

/-! ## Sound elements -/

/-- There is a text for every number. -/
def Affix.HasTexts : Affix → Prop
  | simple text => text ≠ ""
  | plural one many => one ≠ "" ∧ many ≠ ""

namespace Element

mutual

/-- Text that stands anywhere in the element is not empty, and every fraction of a second has one to
nine digits. -/
def IsSound : Element → Prop
  | .literal fixed => fixed.text ≠ ""
  | .number field =>
    (∀ affix ∈ field.leading, affix.HasTexts) ∧ ∀ affix ∈ field.trailing, affix.HasTexts
  | .fraction field => 0 < field.digits ∧ field.digits ≤ 9
  | .separator between => between.text ≠ "" ∧ between.finalText ≠ ""
  | .composite elements => AreSound elements
  | .name _ | .twoDigitYear _ | .offset _ => True

def AreSound : List Element → Prop
  | [] => True
  | element :: rest => element.IsSound ∧ AreSound rest

end

theorem areSound_append (first second : List Element) :
    AreSound (first ++ second) ↔ AreSound first ∧ AreSound second := by
  induction first with
  | nil => simp [AreSound]
  | cons element first ih => simp [AreSound, ih, and_assoc]

theorem areSound_concat {elements : List Element} {element : Element} :
    AreSound (elements ++ [element]) ↔ AreSound elements ∧ element.IsSound := by
  simp [areSound_append, AreSound]

theorem AreSound.concat {elements : List Element} {element : Element}
    (sound : AreSound elements) (own : element.IsSound) : AreSound (elements ++ [element]) :=
  areSound_concat.mpr ⟨sound, own⟩

theorem areSound_iff {elements : List Element} :
    AreSound elements ↔ ∀ element ∈ elements, element.IsSound := by
  induction elements with
  | nil => simp [AreSound]
  | cons element rest ih => simp [AreSound, ih]

/-- What a builder of date-time formats appends, the formats of other formatters apart: text,
components of a date-time in digits or by their names, fractions with one to nine digits, years of
two digits and offsets. -/
inductive IsPart : Element → Prop where
  | literal {literal} : literal.text ≠ "" → IsPart (.literal literal)
  | number {field minDigits maxParsedDigits} (fixedWidth : Bool) :
      IsPart (.number { NumberField.ofDateTime field minDigits maxParsedDigits with fixedWidth })
  | name {name} : IsPart (.name name)
  | fraction {fraction} :
      0 < fraction.digits → fraction.digits ≤ 9 → IsPart (.fraction fraction)
  | twoDigitYear {year} : IsPart (.twoDigitYear year)
  | offset {style} : IsPart (.offset style)

theorem IsCompiled.isPart {element : Element} (compiled : element.IsCompiled) :
    element.IsPart := by
  cases compiled with
  | literal given => exact .literal given
  | number fixedWidth letter => exact .number fixedWidth
  | fraction positive few => exact .fraction positive few
  | name => exact .name
  | twoDigitYear => exact .twoDigitYear
  | offset => exact .offset

theorem IsPart.isSound {element : Element} (part : element.IsPart) : element.IsSound := by
  cases part with
  | literal given => exact given
  | number fixedWidth => exact ⟨nofun, nofun⟩
  | fraction positive few => exact ⟨positive, few⟩
  | name | twoDigitYear | offset => trivial

end Element

open Element (AreSound)

/-! ## Builders of date-time formats -/

/-- An operation leaves the elements as they are and appends parts to them. -/
theorem DateTimeBuilder.perform_ok {builder next : DateTimeBuilder}
    {operation : DateTimeBuilder.Operation} (accepted : builder.perform operation = .ok next) :
    ∃ appended, next.elements = builder.elements ++ appended ∧
      ∀ element ∈ appended, element.IsPart := by
  have one {element : Element} (same : next = builder.append element) (part : element.IsPart) :
      ∃ appended, next.elements = builder.elements ++ appended ∧
        ∀ element ∈ appended, element.IsPart :=
    ⟨[element], congrArg elements same, List.forall_mem_singleton.mpr part⟩
  cases operation with
  | number field minDigits =>
      cases accepted
      exact one rfl (.number false)
  | name =>
      cases accepted
      exact one rfl .name
  | offset =>
      cases accepted
      exact one rfl .offset
  | character c =>
      cases accepted
      exact one rfl (.literal (Text.toString_ne_empty c))
  | timeSeparator | dateSeparator | decimalSeparator =>
      cases accepted
      exact one rfl (.literal (by decide))
  | literal text =>
      simp only [perform, appendLiteral] at accepted
      split at accepted
      · cases accepted
      · next given =>
          cases accepted
          exact one rfl (.literal given)
  | decimal field minDigits maxDigits =>
      simp only [perform, appendDecimal] at accepted
      split at accepted <;> cases accepted
      exact one rfl (.number false)
  | fixedDecimal field digits =>
      simp only [perform, appendFixedDecimal] at accepted
      split at accepted <;> cases accepted
      exact one rfl (.number true)
  | twoDigitYear field =>
      simp only [perform, appendTwoDigitYear] at accepted
      split at accepted <;> cases accepted
      exact one rfl .twoDigitYear
  | fraction digits =>
      simp only [perform, appendFraction] at accepted
      split at accepted <;> cases accepted
      refine one rfl (.fraction ?_ ?_) <;> simp only [FractionField.ofDigits] <;> omega
  | pattern culture pattern =>
      obtain ⟨elements, compiled, accepted⟩ := bind_ok accepted
      cases accepted
      have own := Pattern.elements_isCompiled (failureAsError_eq_ok_iff.mp compiled)
      exact ⟨elements, rfl, fun element member => (own element member).isPart⟩

theorem DateTimeBuilder.areSound_perform {builder next : DateTimeBuilder}
    {operation : DateTimeBuilder.Operation} (sound : AreSound builder.elements)
    (accepted : builder.perform operation = .ok next) : AreSound next.elements := by
  obtain ⟨appended, elements, parts⟩ := perform_ok accepted
  rw [elements, Element.areSound_append]
  exact ⟨sound, Element.areSound_iff.mpr fun element member => (parts element member).isSound⟩

/-! ## Builders of period formats -/

/-- What may come right behind an element: no separator behind a separator, and no number with a
leading affix behind a literal. -/
def Element.MayPrecede : Element → Element → Prop
  | .separator _, .separator _ => False
  | .literal _, .number field => field.leading = none
  | _, _ => True

namespace PeriodBuilder

structure WellBuilt (builder : PeriodBuilder) : Prop where
  sound : AreSound builder.elements
  waitingTexts : ∀ affix ∈ builder.waiting?, affix.HasTexts
  neighbours : builder.elements.IsChain Element.MayPrecede
  opening : ∀ between, builder.elements.head? = some (.separator between) →
    between.mode = .ifFieldsAfter
  /-- The affix that waits does not stand behind a literal. -/
  waiting : builder.waiting?.isSome → ∀ text, builder.elements.getLast? ≠ some (.literal text)

variable {builder next : PeriodBuilder}

theorem WellBuilt.new : WellBuilt {} where
  sound := trivial
  waitingTexts := nofun
  neighbours := .nil
  opening := nofun
  waiting := nofun

/-- All that counts are the elements and the affix that waits. -/
theorem WellBuilt.of_eq (well : builder.WellBuilt) (elements : next.elements = builder.elements)
    (waiting : next.waiting? = builder.waiting?) : next.WellBuilt where
  sound := elements ▸ well.sound
  waitingTexts := waiting ▸ well.waitingTexts
  neighbours := elements ▸ well.neighbours
  opening := elements ▸ well.opening
  waiting := by
    rw [elements, waiting]
    exact well.waiting

/-- An element can be appended that fits behind the last one, or comes first and needs nothing
before it. -/
theorem WellBuilt.concat (well : builder.WellBuilt) {element : Element}
    (sound : element.IsSound) (fits : ∀ last ∈ builder.elements.getLast?, last.MayPrecede element)
    (opens : builder.elements = [] → ∀ between, element = .separator between →
      between.mode = .ifFieldsAfter)
    (elements : next.elements = builder.elements ++ [element]) (free : next.waiting? = none) :
    next.WellBuilt where
  sound := elements ▸ well.sound.concat sound
  waitingTexts := by
    rw [free]
    nofun
  neighbours := by
    rw [elements]
    refine well.neighbours.append (.singleton _) fun last isLast other isNext => ?_
    cases isNext
    exact fits last isLast
  opening := by
    rw [elements]
    intro between first
    cases earlier : builder.elements with
    | nil =>
        rw [earlier] at first
        exact opens earlier between (Option.some.inj first)
    | cons head rest =>
        refine well.opening between ?_
        rw [earlier] at first ⊢
        exact first
  waiting := by
    rw [free]
    nofun

theorem WellBuilt.append (well : builder.WellBuilt) (free : builder.waiting? = none)
    {element : Element} (sound : element.IsSound)
    (fits : ∀ last ∈ builder.elements.getLast?, last.MayPrecede element)
    (opens : builder.elements = [] → ∀ between, element = .separator between →
      between.mode = .ifFieldsAfter) :
    (builder.append element).WellBuilt :=
  well.concat sound fits opens rfl free

/-- A unit takes the affix that waits. It does not come behind a literal if there is one. -/
theorem WellBuilt.concat_number (well : builder.WellBuilt) {number : NumberField}
    (leading : number.leading = builder.waiting?) (bare : number.trailing = none)
    (elements : next.elements = builder.elements ++ [.number number])
    (free : next.waiting? = none) : next.WellBuilt := by
  have sound : Element.IsSound (.number number) :=
    ⟨leading ▸ well.waitingTexts, bare ▸ nofun⟩
  refine well.concat sound (fun last isLast => ?_) (fun _ _ other => nomatch other) elements free
  cases last with
  | literal text =>
      refine leading.trans (Option.not_isSome_iff_eq_none.mp fun waits => ?_)
      exact well.waiting waits text isLast
  | _ => trivial

theorem WellBuilt.setLeading (well : builder.WellBuilt) {affix : Affix}
    (accepted : builder.setLeading affix = .ok next) (texts : affix.HasTexts) : next.WellBuilt := by
  obtain ⟨noLiteral, rfl⟩ := setLeading_ok accepted
  exact
    { sound := well.sound
      waitingTexts := fun _ same => Option.some.inj same ▸ texts
      neighbours := well.neighbours
      opening := well.opening
      waiting := fun _ => noLiteral }

/-- A trailing affix changes nothing about what may come before its number. -/
theorem WellBuilt.setTrailing (well : builder.WellBuilt) {affix : Affix}
    (accepted : builder.setTrailing affix = .ok next) (texts : affix.HasTexts) : next.WellBuilt := by
  obtain ⟨free, before, number, elements, rfl⟩ := setTrailing_ok accepted
  have sound := well.sound
  have neighbours := well.neighbours
  have opening := well.opening
  rw [elements] at sound neighbours opening
  obtain ⟨others, leading, _⟩ := Element.areSound_concat.mp sound
  obtain ⟨earlier, _, fits⟩ := List.isChain_append.mp neighbours
  exact
    { sound := others.concat ⟨leading, fun _ same => Option.some.inj same ▸ texts⟩
      waitingTexts := free ▸ nofun
      neighbours := by
        refine earlier.append (.singleton _) fun last isLast other isNext => ?_
        cases isNext
        have fit := fits last isLast (.number number) rfl
        cases last <;> exact fit
      opening := by
        cases before with
        | nil => nofun
        | cons first rest => exact opening
      waiting := free ▸ nofun }

theorem WellBuilt.addSeparator (well : builder.WellBuilt) {between : Separator}
    (final : between.finalText ≠ "") (accepted : builder.addSeparator between = .ok next) :
    next.WellBuilt := by
  obtain ⟨given, free, ⟨_, _, rfl⟩ | ⟨opens, noSeparator, rfl⟩⟩ := addSeparator_ok accepted
  · exact well
  · refine well.append free ⟨given, final⟩ ?_ ?_
    · intro last isLast
      cases last with
      | separator other => exact (noSeparator other isLast).elim
      | _ => trivial
    · rintro empty _ ⟨⟩
      have mode := opens empty
      cases kind : between.mode with
      | ifFieldsAfter => rfl
      | always | ifFieldsBefore => cases (kind ▸ mode : _ = false)

theorem WellBuilt.perform (well : builder.WellBuilt) {operation : Operation}
    (accepted : builder.perform operation = .ok next) : next.WellBuilt := by
  cases operation with
  | zeroPolicy | minPrintedDigits | maxParsedDigits | rejectSigned =>
      cases accepted
      exact well.of_eq rfl rfl
  | unit | secondsWithOptionalMillis =>
      cases accepted
      exact well.concat_number rfl rfl rfl rfl
  | leading text =>
      obtain ⟨_, given, accepted⟩ := bind_ok accepted
      exact well.setLeading accepted (given_of_requireText given)
  | pluralLeading one many =>
      obtain ⟨_, givenOne, accepted⟩ := bind_ok accepted
      obtain ⟨_, givenMany, accepted⟩ := bind_ok accepted
      exact well.setLeading accepted ⟨given_of_requireText givenOne, given_of_requireText givenMany⟩
  | trailing text =>
      obtain ⟨_, given, accepted⟩ := bind_ok accepted
      exact well.setTrailing accepted (given_of_requireText given)
  | pluralTrailing one many =>
      obtain ⟨_, givenOne, accepted⟩ := bind_ok accepted
      obtain ⟨_, givenMany, accepted⟩ := bind_ok accepted
      exact well.setTrailing accepted ⟨given_of_requireText givenOne, given_of_requireText givenMany⟩
  | literal text =>
      obtain ⟨given, free, rfl⟩ := appendLiteral_ok accepted
      refine well.append free given (fun last _ => ?_) nofun
      cases last <;> trivial
  | separator | separatorIfFieldsAfter | separatorIfFieldsBefore =>
      exact well.addSeparator (addSeparator_ok accepted).1 accepted
  | separatorWithFinal text finalText =>
      obtain ⟨_, given, accepted⟩ := bind_ok accepted
      exact well.addSeparator (given_of_requireText given) accepted

theorem WellBuilt.appendFormatter (well : builder.WellBuilt) {formatter : PeriodFormatter}
    (sound : ∀ tree ∈ formatter.printer?.or formatter.parser?, AreSound tree.elements)
    (accepted : builder.appendFormatter formatter = .ok next) : next.WellBuilt := by
  obtain ⟨free, tree, given, rfl⟩ := appendFormatter_ok accepted
  refine well.append free (sound tree given) (fun last _ => ?_) nofun
  cases last <;> trivial

theorem isSound_tell {present : PeriodFieldSet} {element : Element} (sound : element.IsSound) :
    (tell present element).IsSound := by
  cases element with
  | number field =>
      rw [tell]
      split <;> exact sound
  | _ => exact sound

theorem areSound_finishedElements (sound : AreSound builder.elements) :
    AreSound builder.finishedElements := by
  rw [finishedElements_eq]
  generalize PeriodFieldSet.ofList builder.units = present
  generalize builder.elements = elements at sound ⊢
  induction elements with
  | nil => trivial
  | cons element rest ih => exact ⟨isSound_tell sound.1, ih sound.2⟩

end PeriodBuilder

/-! ## Reachable builders -/

mutual

theorem DateTimeBuilder.Reachable.areSound {builder : DateTimeBuilder}
    (reachable : builder.Reachable) : AreSound builder.elements :=
  match reachable with
  | .new => trivial
  | .operation earlier accepted => DateTimeBuilder.areSound_perform earlier.areSound accepted
  | .formatter earlier built given accepted => by
    have own := built.areSound
    have sound := earlier.areSound
    rw [DateTimeBuilder.appendFormatter, given] at accepted
    cases accepted
    exact sound.concat own

theorem PeriodBuilder.Reachable.wellBuilt {builder : PeriodBuilder}
    (reachable : builder.Reachable) : builder.WellBuilt :=
  match reachable with
  | .new => .new
  | .operation earlier accepted => earlier.wellBuilt.perform accepted
  | .formatter earlier built given accepted => by
    have own := built.areSound
    refine earlier.wellBuilt.appendFormatter (fun tree same => ?_) accepted
    cases given.symm.trans same
    exact own

/-- The elements of a tree are sound, however deep they stand. -/
theorem FormatTree.IsBuilt.areSound {tree : FormatTree} (built : tree.IsBuilt) :
    AreSound tree.elements :=
  match built with
  | .dateTime reachable => reachable.areSound
  | .period reachable finished => by
    have sound := PeriodBuilder.areSound_finishedElements reachable.wellBuilt.sound
    obtain ⟨_, _, finished⟩ := bind_ok finished
    cases finished
    exact sound

end

/-! ## Fractions of a second

The one bound on elements that printing relies on. -/

namespace Element

mutual

/-- Every fraction of a second in the element has one to nine digits. -/
def FractionsFit : Element → Prop
  | .fraction field => 0 < field.digits ∧ field.digits ≤ 9
  | .composite elements => AllFractionsFit elements
  | .literal _ | .number _ | .name _ | .twoDigitYear _ | .offset _ | .separator _ => True

def AllFractionsFit : List Element → Prop
  | [] => True
  | element :: rest => element.FractionsFit ∧ AllFractionsFit rest

end

mutual

theorem IsSound.fractionsFit : ∀ {element : Element}, element.IsSound → element.FractionsFit
  | .fraction _, fit => fit
  | .composite _, sound => AreSound.allFractionsFit sound
  | .literal _, _ | .number _, _ | .name _, _ | .twoDigitYear _, _ | .offset _, _
  | .separator _, _ => trivial

theorem AreSound.allFractionsFit :
    ∀ {elements : List Element}, AreSound elements → AllFractionsFit elements
  | [], _ => trivial
  | _ :: _, ⟨own, others⟩ => ⟨own.fractionsFit, others.allFractionsFit⟩

end

end Element

/-- Every fraction in a tree has one to nine digits, however deep it stands. -/
theorem FormatTree.IsBuilt.allFractionsFit {tree : FormatTree} (built : tree.IsBuilt) :
    Element.AllFractionsFit tree.elements :=
  built.areSound.allFractionsFit

end ChronoText
