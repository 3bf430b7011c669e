import ChronoText.Proofs.Formatter.PeriodLayouts
import ChronoText.Proofs.Parsing.Elements
import ChronoText.Proofs.Parsing.PeriodParts
import ChronoText.Proofs.Parsing.UnitAmounts

/-! Periods in the form of a layout are read back. Printing decides on a separator by the units that
are printed around it, and reading by the text alone. Both agree: no separator is taken for a unit,
as no letter occurs in it, and one that asks for fields before it is only looked for where the text
of a unit has been read. -/

set_option autoImplicit false

namespace ChronoText

open ChronoText.NumberField (recordUnits)

/-! ## Letters that tell the units apart -/

theorem LayoutSeparator.print_element (context : PrintContext) (between : LayoutSeparator) :
    Element.print context between.element = [] := by
  rw [element, Element.print]

theorem LayoutSeparator.IsClearOf.tail {between : LayoutSeparator} {unit : LayoutUnit}
    {units : List LayoutUnit} (clear : between.IsClearOf (unit :: units)) :
    between.IsClearOf units where
  given := clear.given
  ascii := clear.ascii
  noLetter := fun c member => (List.forall_mem_cons.mp (clear.noLetter c member)).2

namespace LayoutUnit

/-- The letters of the units differ from each other and from the separators behind the units. -/
structure AreApart (units : List LayoutUnit) : Prop where
  alpha : ∀ unit ∈ units, unit.letter.isAlpha = true
  letters : (units.map (·.letter.toLower)).Nodup
  behind : ∀ unit ∈ units, ∀ between ∈ unit.behind?, between.IsClearOf units

theorem AreApart.tail {unit : LayoutUnit} {units : List LayoutUnit}
    (apart : AreApart (unit :: units)) : AreApart units where
  alpha := (List.forall_mem_cons.mp apart.alpha).2
  letters := (List.nodup_cons.mp apart.letters).2
  behind := fun other member between behind =>
    (apart.behind other (List.mem_cons_of_mem unit member) between behind).tail

end LayoutUnit

theorem LayoutSeparator.IsClearOf.sameLetter_text {between : LayoutSeparator}
    {units : List LayoutUnit} (clear : between.IsClearOf units) {unit : LayoutUnit}
    (unitMember : unit ∈ units) (alpha : unit.letter.isAlpha = true) {c : Char}
    (member : c ∈ between.text.toList) : Text.sameLetter unit.letter c = false :=
  Text.sameLetter_eq_false_of_ascii (Text.toNat_of_isAlpha alpha).2 (clear.ascii c member)
    (clear.noLetter c member unit unitMember)

/-- The letter of a unit is not found in what is printed behind it. -/
theorem LayoutUnit.AreApart.distance?_behind {unit : LayoutUnit} {units : List LayoutUnit}
    (apart : AreApart (unit :: units)) (period : Period) (present : PeriodFieldSet) (before : Nat) :
    unit.affix.distance? (Element.printFrom period.printContext before
      (unit.behind?.toList.map (·.element) ++ units.flatMap (LayoutUnit.elements present))) =
        none := by
  obtain ⟨alpha, othersAlpha⟩ := List.forall_mem_cons.mp apart.alpha
  have separator {owner : LayoutUnit} (ownerMember : owner ∈ unit :: units)
      {between : LayoutSeparator} (behind : between ∈ owner.behind?) {c : Char}
      (text : c ∈ Element.print period.printContext between.element ∨
        ∃ printed, between.element = .separator printed ∧
          (c ∈ printed.text.toList ∨ c ∈ printed.finalText.toList)) :
      Text.sameLetter unit.letter c = false := by
    have clear := apart.behind owner ownerMember between behind
    rcases text with nothing | ⟨printed, same, own⟩
    · rw [LayoutSeparator.print_element] at nothing
      cases nothing
    · cases same
      exact clear.sameLetter_text List.mem_cons_self alpha (or_self_iff.mp own)
  -- What is printed there are separators, and the numbers and letters of other units.
  refine Affix.distance?_of_avoids fun c member => ?_
  obtain ⟨element, elementMember, own⟩ := Element.mem_printFrom member
  rcases List.mem_append.mp elementMember with behind | later
  · obtain ⟨between, betweenMember, rfl⟩ := List.mem_map.mp behind
    exact separator List.mem_cons_self (Option.mem_toList.mp betweenMember) own
  · obtain ⟨other, otherMember, later⟩ := List.mem_flatMap.mp later
    rcases List.mem_cons.mp later with rfl | behind
    · have different : other.letter.toLower ≠ unit.letter.toLower := by
        intro same
        have again : other.letter.toLower ∈ units.map (·.letter.toLower) :=
          List.mem_map_of_mem otherMember
        rw [same] at again
        exact (List.nodup_cons.mp apart.letters).1 again
      rcases own with text | ⟨between, absurd, _⟩
      · exact Element.sameLetter_print_ofUnit alpha (othersAlpha other otherMember) different text
      · cases absurd
    · obtain ⟨between, betweenMember, rfl⟩ := List.mem_map.mp behind
      exact separator (List.mem_cons_of_mem unit otherMember) (Option.mem_toList.mp betweenMember) own

/-! ## Reading the units -/

variable {settings : ParseSettings} {period : Period} {present : PeriodFieldSet}

theorem LayoutSeparator.findsTexts {between : LayoutSeparator} (given : between.text ≠ "") :
    Separator.FindsTexts ⟨between.text, between.text, between.mode⟩ :=
  Separator.findsTexts_of_same given between.mode

theorem LayoutSeparator.mode_ne_ifFieldsBefore (between : LayoutSeparator) :
    between.mode ≠ .ifFieldsBefore := by
  cases between <;> exact SeparatorMode.noConfusion

namespace LayoutUnit

theorem areParts (units : List LayoutUnit) :
    ∀ element ∈ units.flatMap (LayoutUnit.elements present), element.IsPeriodPart := by
  intro element member
  obtain ⟨unit, _, own⟩ := List.mem_flatMap.mp member
  rcases List.mem_cons.mp own with rfl | behind
  · exact .unit
  · obtain ⟨between, _, rfl⟩ := List.mem_map.mp behind
    exact .separator between.mode_ne_ifFieldsBefore

/-- Whether a unit was printed since the last separator shows in whether text was read since then, or
no separator asks for it. -/
def Aligned (units : List LayoutUnit) (before : Nat) (touched : Bool) : Prop :=
  touched = decide (0 < before) ∨
    ∀ unit ∈ units, ∀ between ∈ unit.behind?, between.mode = .ifFieldsAfter

section Aligned

variable {unit : LayoutUnit} {units : List LayoutUnit} {before : Nat} {touched : Bool}

theorem Aligned.tail (aligned : Aligned (unit :: units) before touched) :
    Aligned units before touched :=
  aligned.imp_right fun modes => (List.forall_mem_cons.mp modes).2

theorem Aligned.element (aligned : Aligned units before touched) (unit : LayoutUnit) :
    Aligned units (before + Element.fieldCount period.printContext (unit.element present))
      (touched || !(Element.print period.printContext (unit.element present)).isEmpty) := by
  rcases aligned with same | modes
  · left
    rw [same, LayoutUnit.element, Element.isEmpty_print_ofUnit, ← Bool.decide_or, decide_eq_decide]
    omega
  · exact .inr modes

theorem Aligned.touched_eq (aligned : Aligned (unit :: units) before touched)
    {between : LayoutSeparator} (behind : between ∈ unit.behind?) (always : between.mode = .always) :
    touched = decide (0 < before) := by
  rcases aligned with same | modes
  · exact same
  · have after := modes unit List.mem_cons_self between behind
    rw [always] at after
    cases after

end Aligned

/-- Units read back with the separators behind them, whichever of them are printed. -/
theorem legible (culture : settings.culture = .invariant)
    (type : settings.periodType = period.type) {units : List LayoutUnit} (apart : AreApart units)
    {before : Nat} {touched : Bool} (aligned : Aligned units before touched) :
    Legible settings period.printContext [] before touched
      (units.flatMap (LayoutUnit.elements present))
      (recordUnits present period (units.map entry)) := by
  induction units generalizing before touched with
  | nil => exact .reached
  | cons unit units ih =>
      have clear := Affix.startsNoNumber_letter (apart.alpha unit List.mem_cons_self)
      rw [List.flatMap_cons, LayoutUnit.elements, List.cons_append, List.map_cons,
        NumberField.recordUnits_cons]
      refine .element (Element.not_isSeparator_number _) ?own ?later
      case own =>
        refine NumberField.readsBack_amount culture type clear (fun _ => ?_) fun _ => ?_
        · exact Affix.readsBefore_simple _ _
        · rw [List.append_nil]
          exact apart.distance?_behind period present _
      case later =>
        have now := @Aligned.element period present _ _ _ aligned unit
        cases behind : unit.behind? with
        | none => exact ih apart.tail now.tail
        | some between =>
            -- Behind a separator both counts start anew, so they agree whatever they were before.
            have given := (apart.behind unit List.mem_cons_self between behind).given
            refine .separator ?_ (ih apart.tail (.inl rfl))
            exact Separator.readsBack_between between.mode_ne_ifFieldsBefore
              (LayoutSeparator.findsTexts given) (now.touched_eq behind) (areParts units)

end LayoutUnit

namespace PeriodLayout

variable {layout : PeriodLayout}

theorem IsDistinct.areApart (distinct : layout.IsDistinct) : LayoutUnit.AreApart layout.units where
  alpha := distinct.alpha
  letters := distinct.letters
  behind := fun _ member between behind =>
    distinct.separators between (mem_separators_of_behind member behind)

theorem beforeElements_legible (culture : settings.culture = .invariant)
    (type : settings.periodType = period.type) (distinct : layout.IsDistinct) {touched : Bool}
    (aligned : LayoutUnit.Aligned layout.units 0 touched) :
    Legible settings period.printContext [] 0 touched
      (layout.beforeElements ++ layout.units.flatMap (LayoutUnit.elements present))
      (recordUnits present period (layout.units.map LayoutUnit.entry)) := by
  have units {touched : Bool} (aligned : LayoutUnit.Aligned layout.units 0 touched) :=
    @LayoutUnit.legible settings period present culture type _ distinct.areApart _ _ aligned
  unfold beforeElements
  split
  · next text before =>
      have given := (distinct.separators _ (mem_separators_of_before before)).given
      have found := LayoutSeparator.findsTexts given
      refine .separator ?_ (units (.inl rfl))
      refine Separator.readsBack_between ?_ found ?_ (LayoutUnit.areParts layout.units)
      · exact LayoutSeparator.mode_ne_ifFieldsBefore (.ifFieldsAfter text)
      · intro always
        cases always
  · exact units aligned
  · exact units aligned

theorem elements_legible (culture : settings.culture = .invariant)
    (exact : settings.styles.innerBlank = false) (type : settings.periodType = period.type)
    (distinct : layout.IsDistinct) :
    Legible settings period.printContext [] 0 false (layout.elements present)
      (recordUnits present period (layout.units.map LayoutUnit.entry)) := by
  unfold elements literalElements
  cases literal : layout.literal? with
  | none => exact beforeElements_legible culture type distinct (.inl rfl)
  | some text =>
      have modes := (distinct.literal text literal).2
      have later {touched : Bool} := @beforeElements_legible settings period present layout culture
        type distinct touched (.inr fun unit member between behind =>
          modes between (mem_separators_of_behind member behind))
      have read : Legible settings period.printContext [] 0 false
          (.literal ⟨.given, text⟩ :: (layout.beforeElements
            ++ layout.units.flatMap (LayoutUnit.elements present)))
          (recordUnits present period (layout.units.map LayoutUnit.entry) ∘ id) :=
        .element (Element.not_isSeparator_literal _) (Literal.readsBack culture _ exact _) later
      exact read

/-! ## Something is printed -/

theorem element_mem_elements {unit : LayoutUnit} (member : unit ∈ layout.units) :
    unit.element present ∈ layout.elements present := by
  refine List.mem_append_right _ (List.mem_append_right _ ?_)
  exact List.mem_flatMap.mpr ⟨unit, member, List.mem_cons_self⟩

theorem print_elements_ne_nil (distinct : layout.IsDistinct) (standard : period.type = .standard)
    (known : period.KnowsUnits)
    (absent : ∀ field, field ∉ layout.fields → period.get field = 0) :
    Element.print period.printContext (.composite (layout.elements layout.present)) ≠ [] := by
  obtain ⟨first, firstMember⟩ := List.exists_mem_of_ne_nil _ distinct.nonempty
  obtain ⟨field, fieldMember, prints⟩ := NumberField.exists_mem_prints known absent
    (period.supports_of_standard standard first.field) (List.mem_map_of_mem firstMember)
  obtain ⟨unit, unitMember, rfl⟩ := List.mem_map.mp fieldMember
  have text := NumberField.print_ofUnit_ne_nil unit.affix prints
  rw [Element.print]
  exact Element.printFrom_ne_nil (element_mem_elements unitMember)
    (Element.not_isSeparator_number _) text 0

end PeriodLayout

namespace PeriodFormatter

/-- Every period of the standard type whose units are among those of a layout is read back from the
text that the formatter of the layout prints. -/
theorem parse_print_layout (handle : Nat) {layout : PeriodLayout} (distinct : layout.IsDistinct)
    {period : Period} (standard : period.type = .standard)
    (absent : ∀ field, field ∉ layout.fields → period.get field = 0) :
    ∃ builder formatter text, layout.builder = .ok builder ∧
      builder.formatter handle = .ok formatter ∧ formatter.print period = .ok text ∧
        formatter.parse text = .ok period := by
  let tree : FormatTree := ⟨handle, layout.elements layout.present⟩
  let formatter : PeriodFormatter := { printer? := some tree, parser? := some tree }
  have known : period.KnowsUnits := by
    intro field _
    rw [standard]
    cases field <;> rfl
  have built := PeriodLayout.builder_eq distinct
  have finished := layout.formatter_elements handle
  have legible : Legible formatter.parseSettings period.printContext [] 0 false tree.elements
      (recordUnits layout.present period (layout.units.map LayoutUnit.entry)) :=
    PeriodLayout.elements_legible rfl rfl standard.symm distinct
  have some := PeriodLayout.print_elements_ne_nil distinct standard known absent
  have read := legible.parseWhole_print rfl some "Period"
  have entries : (layout.units.map LayoutUnit.entry).map (·.1) = layout.fields := by
    rw [List.map_map]
    rfl
  have amounts : (recordUnits layout.present period (layout.units.map LayoutUnit.entry)
      .empty).toPeriod .standard = .ok period := by
    rw [← standard]
    refine NumberField.toPeriod_recordUnits known ?_ ?_
    · rw [entries]
      exact distinct.fields
    · rw [entries]
      exact absent
  refine ⟨_, formatter, _, built, finished, rfl, ?_⟩
  have parser : formatter.parser? = .some tree := rfl
  have type : formatter.parseType = .standard := rfl
  rw [parse_of_tree parser, FormatTree.print, String.toList_ofList, type]
  have whole : parseWhole tree.elements formatter.parseSettings
      (Element.print (formatter.printContext period) (.composite tree.elements)) "Period" =
        .ok _ := read
  rw [whole, Except.bind, amounts]
  rfl

/-- Minutes before years, with separators that look like numbers, one of them at the start. The least
number of minutes and the greatest of milliseconds are printed, and the years are not. -/
theorem parse_print_layout_unordered :
    ∃ builder formatter text,
      PeriodLayout.builder
        { before? := some (.ifFieldsAfter "12")
          units := [⟨.minutes, 'm', some (.always "-00")⟩,
            ⟨.years, 'Y', some (.ifFieldsAfter ", ")⟩, ⟨.millis, 'S', some (.always "5")⟩] } =
          .ok builder ∧
        builder.formatter 0 = .ok formatter ∧
        formatter.print { Period.zeroOf .standard with minutes := -2147483648, millis := 2147483647 } =
          .ok text ∧
        formatter.parse text =
          .ok { Period.zeroOf .standard with minutes := -2147483648, millis := 2147483647 } := by
  refine parse_print_layout 0 ?distinct rfl ?absent
  case distinct =>
    refine ⟨by decide, by decide, by decide, by decide, ?separators, by decide⟩
    intro between member
    simp only [PeriodLayout.separators, Option.toList_some, List.flatMap_cons, List.flatMap_nil,
      List.cons_append, List.nil_append, List.mem_cons, List.not_mem_nil, or_false] at member
    rcases member with rfl | rfl | rfl | rfl
    all_goals
      constructor
      · decide
      · simp [LayoutSeparator.text]
      · simp [LayoutSeparator.text]
  case absent =>
    intro field missing
    cases field <;> revert missing <;> decide

end PeriodFormatter

end ChronoText
