import ChronoText.Proofs.Formatter.PrintedUnits
import ChronoText.Proofs.Formatter.SoundBuilders

/-! Units in formats inside formats. Each number was told of the units of its own format when that
was finished, and of none in the formats around it or inside it. So each format of a nest prints for
itself the units that are due, and of a period that is all zero there is one in every format that has
units at all. -/

set_option autoImplicit false

namespace ChronoText

namespace PeriodBuilder

theorem units_cons_number (field : NumberField) (rest : List Element) :
    units { elements := .number field :: rest } =
      field.selector.periodField?.toList ++ units { elements := rest } := by
  cases unitField : field.selector.periodField? with
  | none => exact List.filterMap_cons_none unitField
  | some unit => exact List.filterMap_cons_some unitField

theorem units_cons_composite (inner rest : List Element) :
    units { elements := .composite inner :: rest } = units { elements := rest } := rfl

end PeriodBuilder

namespace Element

mutual

/-- The units of each format inside the element, those of the formats inside it apart. -/
def unitGroups : Element → List (List PeriodField)
  | .composite elements => PeriodBuilder.units { elements } :: unitGroupsOf elements
  | .literal _ | .number _ | .name _ | .fraction _ | .twoDigitYear _ | .offset _
  | .separator _ => []

def unitGroupsOf : List Element → List (List PeriodField)
  | [] => []
  | element :: rest => element.unitGroups ++ unitGroupsOf rest

end

mutual

/-- The units whose numbers have a text, however deep they stand, in the order in which they are
printed. -/
def shownUnits (context : PrintContext) : Element → List PeriodField
  | .composite elements => shownUnitsOf context elements
  | .number field => ((Element.number field).printedUnit? context).toList
  | .literal _ | .name _ | .fraction _ | .twoDigitYear _ | .offset _ | .separator _ => []

def shownUnitsOf (context : PrintContext) : List Element → List PeriodField
  | [] => []
  | element :: rest => element.shownUnits context ++ shownUnitsOf context rest

end

mutual

/-- The element is a number of a unit under the policy, text, or a format of such elements. -/
def KeepsTo (policy : ZeroPolicy) : Element → Prop
  | .number field => field.selector.periodField?.isSome = true ∧ field.zeroPolicy = policy
  | .composite elements => AllKeepTo policy elements
  | .literal _ | .separator _ => True
  | .name _ | .fraction _ | .twoDigitYear _ | .offset _ => False

def AllKeepTo (policy : ZeroPolicy) : List Element → Prop
  | [] => True
  | element :: rest => element.KeepsTo policy ∧ AllKeepTo policy rest

end

mutual

/-- A unit has been told which units there are. The units of a format inside the element have been
told of those of that format. -/
def IsTold (present : PeriodFieldSet) : Element → Prop
  | .number field => field.selector.periodField?.isSome = true → field.present = present
  | .composite elements => AreTold (.ofList (PeriodBuilder.units { elements })) elements
  | .literal _ | .name _ | .fraction _ | .twoDigitYear _ | .offset _ | .separator _ => True

def AreTold (present : PeriodFieldSet) : List Element → Prop
  | [] => True
  | element :: rest => element.IsTold present ∧ AreTold present rest

end

theorem areTold_iff {present : PeriodFieldSet} {elements : List Element} :
    AreTold present elements ↔ ∀ element ∈ elements, element.IsTold present := by
  induction elements with
  | nil => simp [AreTold]
  | cons element rest ih => simp [AreTold, ih]

/-- The units of a format have been told of each other and of no others, and so have those of every
format inside it. -/
def KnowEachOther (elements : List Element) : Prop :=
  AreTold (.ofList (PeriodBuilder.units { elements })) elements

end Element

namespace FormatTree

/-- The units of the format and of each format inside it, those of the formats inside it apart. -/
def unitGroups (tree : FormatTree) : List (List PeriodField) :=
  Element.unitGroups (.composite tree.elements)

def shownUnits (tree : FormatTree) (context : PrintContext) : List PeriodField :=
  Element.shownUnitsOf context tree.elements

end FormatTree

/-! ## Units in builders -/

open Element (AreTold KnowEachOther)

/-- The element is neither a unit nor a format. -/
def Element.IsFieldOrText : Element → Prop
  | .number field => field.selector.periodField? = none
  | .composite _ => False
  | .literal _ | .name _ | .fraction _ | .twoDigitYear _ | .offset _ | .separator _ => True

theorem Element.IsFieldOrText.isTold {element : Element} (plain : element.IsFieldOrText)
    (present : PeriodFieldSet) : element.IsTold present := by
  cases element with
  | number field =>
      intro unit
      rw [(plain : field.selector.periodField? = none)] at unit
      cases unit
  | composite elements => cases plain
  | _ => trivial

theorem Element.IsPart.isFieldOrText {element : Element} (part : element.IsPart) :
    element.IsFieldOrText := by
  cases part with
  | number => rfl
  | _ => trivial

namespace PeriodBuilder

variable {builder next : PeriodBuilder}

/-- In the formats that were appended to the builder the units know each other. -/
def NestedTold (builder : PeriodBuilder) : Prop :=
  ∀ nested, Element.composite nested ∈ builder.elements → KnowEachOther nested

theorem NestedTold.append {element : Element} (told : builder.NestedTold)
    (own : ∀ nested, element = .composite nested → KnowEachOther nested) :
    (builder.append element).NestedTold := by
  intro nested member
  rcases List.mem_append.mp member with earlier | last
  · exact told nested earlier
  · exact own nested (List.mem_singleton.mp last).symm

theorem NestedTold.addSeparator (told : builder.NestedTold) {between : Separator}
    (accepted : builder.addSeparator between = .ok next) : next.NestedTold := by
  obtain ⟨_, _, ⟨_, _, rfl⟩ | ⟨_, _, rfl⟩⟩ := addSeparator_ok accepted
  · exact told
  · exact told.append nofun

theorem NestedTold.setLeading (told : builder.NestedTold) {affix : Affix}
    (accepted : builder.setLeading affix = .ok next) : next.NestedTold := by
  obtain ⟨_, rfl⟩ := setLeading_ok accepted
  exact told

theorem NestedTold.setTrailing (told : builder.NestedTold) {affix : Affix}
    (accepted : builder.setTrailing affix = .ok next) : next.NestedTold := by
  obtain ⟨_, before, number, elements, rfl⟩ := setTrailing_ok accepted
  intro nested member
  rcases List.mem_append.mp member with earlier | last
  · exact told nested (elements ▸ List.mem_append_left _ earlier)
  · cases List.mem_singleton.mp last

theorem NestedTold.perform (told : builder.NestedTold) {operation : Operation}
    (accepted : builder.perform operation = .ok next) : next.NestedTold := by
  cases operation with
  | zeroPolicy | minPrintedDigits | maxParsedDigits | rejectSigned =>
      cases accepted
      exact told
  | unit | secondsWithOptionalMillis =>
      cases accepted
      exact told.append nofun
  | leading text =>
      obtain ⟨_, _, accepted⟩ := bind_ok accepted
      exact told.setLeading accepted
  | pluralLeading one many =>
      obtain ⟨_, _, accepted⟩ := bind_ok accepted
      obtain ⟨_, _, accepted⟩ := bind_ok accepted
      exact told.setLeading accepted
  | trailing text =>
      obtain ⟨_, _, accepted⟩ := bind_ok accepted
      exact told.setTrailing accepted
  | pluralTrailing one many =>
      obtain ⟨_, _, accepted⟩ := bind_ok accepted
      obtain ⟨_, _, accepted⟩ := bind_ok accepted
      exact told.setTrailing accepted
  | literal text =>
      obtain ⟨_, _, rfl⟩ := appendLiteral_ok accepted
      exact told.append nofun
  | separator | separatorIfFieldsAfter | separatorIfFieldsBefore =>
      exact told.addSeparator accepted
  | separatorWithFinal text finalText =>
      obtain ⟨_, _, accepted⟩ := bind_ok accepted
      exact told.addSeparator accepted

theorem NestedTold.appendFormatter (told : builder.NestedTold) {formatter : PeriodFormatter}
    (own : ∀ tree ∈ formatter.printer?.or formatter.parser?, KnowEachOther tree.elements)
    (accepted : builder.appendFormatter formatter = .ok next) : next.NestedTold := by
  obtain ⟨_, tree, given, rfl⟩ := appendFormatter_ok accepted
  refine told.append fun nested same => ?_
  cases same
  exact own tree given

theorem units_map_tell (present : PeriodFieldSet) (elements : List Element) :
    units { elements := elements.map (tell present) } = units { elements } := by
  rw [units, units, List.filterMap_map]
  refine List.filterMap_congr fun element _ => ?_
  cases element with
  | number field =>
      simp only [Function.comp_apply, tell]
      split <;> rfl
  | _ => rfl

/-- When the format is finished its units are told of each other. -/
theorem NestedTold.finished (told : builder.NestedTold) :
    KnowEachOther builder.finishedElements := by
  rw [finishedElements_eq, KnowEachOther, units_map_tell, Element.areTold_iff,
    List.forall_mem_map]
  intro element member
  cases element with
  | number field =>
      rw [tell]
      split
      · exact fun _ => rfl
      · next noUnit => exact fun unit => absurd unit noUnit
  | composite nested => exact told nested member
  | _ => trivial

end PeriodBuilder

mutual

theorem DateTimeBuilder.Reachable.areTold {builder : DateTimeBuilder}
    (reachable : builder.Reachable) (present : PeriodFieldSet) :
    AreTold present builder.elements :=
  match reachable with
  | .new => trivial
  | .operation earlier accepted => by
    have told := earlier.areTold present
    obtain ⟨appended, elements, parts⟩ := DateTimeBuilder.perform_ok accepted
    rw [Element.areTold_iff] at told
    rw [elements, Element.areTold_iff, List.forall_mem_append]
    exact ⟨told, fun element member => (parts element member).isFieldOrText.isTold present⟩
  | .formatter earlier built given accepted => by
    have own := built.knowEachOther
    have told := earlier.areTold present
    rw [DateTimeBuilder.appendFormatter, given] at accepted
    cases accepted
    rw [Element.areTold_iff] at told
    rw [DateTimeBuilder.append, Element.areTold_iff, List.forall_mem_append,
      List.forall_mem_singleton]
    exact ⟨told, own⟩

theorem PeriodBuilder.Reachable.nestedTold {builder : PeriodBuilder}
    (reachable : builder.Reachable) : builder.NestedTold :=
  match reachable with
  | .new => nofun
  | .operation earlier accepted => earlier.nestedTold.perform accepted
  | .formatter earlier built given accepted => by
    have own := built.knowEachOther
    refine earlier.nestedTold.appendFormatter (fun tree same => ?_) accepted
    cases given.symm.trans same
    exact own

/-- In a tree the units of each format know each other, however deep the format stands. -/
theorem FormatTree.IsBuilt.knowEachOther {tree : FormatTree} (built : tree.IsBuilt) :
    KnowEachOther tree.elements :=
  match built with
  | .dateTime reachable => reachable.areTold _
  | .period reachable finished => by
    have told := reachable.nestedTold.finished
    obtain ⟨_, _, finished⟩ := bind_ok finished
    cases finished
    exact told

end

/-! ## Units that are printed -/

namespace ZeroPolicy

/-- The units of a format that are printed where it is one of several. -/
def chosen (policy : ZeroPolicy) (period : Period) (units : List PeriodField) : List PeriodField :=
  units.filter (policy.prints · period (.ofList units))

end ZeroPolicy

namespace Element

variable {policy : ZeroPolicy} {period : Period} {culture : Culture}

theorem shownUnits_number {field : NumberField} {present : PeriodFieldSet}
    (keeps : (Element.number field).KeepsTo policy) (told : (Element.number field).IsTold present)
    (noMillis : period.millis = 0) :
    ∃ unit, field.selector.periodField? = some unit ∧
      (Element.number field).shownUnits ⟨culture, .period period⟩ =
        if policy.prints unit period present then [unit] else [] := by
  obtain ⟨unitField, rfl⟩ := keeps
  cases told unitField
  obtain ⟨unit, unitField⟩ := Option.isSome_iff_exists.mp unitField
  refine ⟨unit, unitField, ?_⟩
  have selector : field.selector = .period unit := by
    cases selector : field.selector <;> rw [selector] at unitField <;> cases unitField
    rfl
  have printed : field.printed? ⟨culture, .period period⟩ =
      if field.zeroPolicy.prints unit period field.present then
        some (.ofInt (period.get unit).toInt)
      else none := by
    simp [NumberField.printed?, selector, PrintContext.period?, NumberField.printedUnit?, noMillis]
  rw [shownUnits, printedUnit?, unitField]
  simp only [NumberField.print_eq_nil_iff, printed]
  split <;> rfl

/-- A format prints those of its own units that the policy prints among them, and so does each format
inside it. -/
theorem shownUnitsOf_perm (noMillis : period.millis = 0) :
    ∀ {elements : List Element} {present : PeriodFieldSet},
      AllKeepTo policy elements → AreTold present elements →
        (shownUnitsOf ⟨culture, .period period⟩ elements).Perm
          ((PeriodBuilder.units { elements }).filter (policy.prints · period present)
            ++ (unitGroupsOf elements).flatMap (policy.chosen period))
  | [], _, _, _ => .refl _
  | .number field :: rest, present, ⟨keeps, others⟩, ⟨told, toldOthers⟩ => by
    obtain ⟨unit, unitField, shown⟩ := shownUnits_number keeps told noMillis
    have later := shownUnitsOf_perm noMillis others toldOthers
    rw [shownUnitsOf, shown, PeriodBuilder.units_cons_number, unitField, Option.toList_some,
      List.singleton_append, List.filter_cons, unitGroupsOf, unitGroups, List.nil_append]
    split
    · exact later.cons unit
    · exact later
  | .composite inner :: rest, present, ⟨keeps, others⟩, ⟨told, toldOthers⟩ => by
    have own := shownUnitsOf_perm noMillis keeps told
    have later := shownUnitsOf_perm noMillis others toldOthers
    rw [shownUnitsOf, shownUnits, unitGroupsOf, unitGroups, List.cons_append, List.flatMap_cons,
      List.flatMap_append, PeriodBuilder.units_cons_composite,
      ← List.append_assoc (policy.chosen period _)]
    exact (own.append later).trans (List.perm_append_comm_assoc _ _ _)
  | .literal _ :: rest, present, ⟨_, others⟩, ⟨_, toldOthers⟩
  | .separator _ :: rest, present, ⟨_, others⟩, ⟨_, toldOthers⟩ => by
    have later := shownUnitsOf_perm noMillis others toldOthers
    exact later

theorem fieldCountOf_eq_length {context : PrintContext} :
    ∀ {elements : List Element}, AllKeepTo policy elements →
      fieldCountOf context elements = (shownUnitsOf context elements).length
  | [], _ => rfl
  | .number field :: rest, ⟨keeps, others⟩ => by
    obtain ⟨unit, unitField⟩ := Option.isSome_iff_exists.mp keeps.1
    rw [fieldCountOf, shownUnitsOf, List.length_append, fieldCountOf_eq_length others, fieldCount,
      NumberField.fieldCount_eq_ite, shownUnits, printedUnit?, unitField]
    split <;> rfl
  | .composite inner :: rest, ⟨keeps, others⟩ => by
    rw [fieldCountOf, shownUnitsOf, List.length_append, fieldCountOf_eq_length others, fieldCount,
      shownUnits, fieldCountOf_eq_length keeps]
  | .literal _ :: rest, ⟨_, others⟩
  | .separator _ :: rest, ⟨_, others⟩ => by
    rw [fieldCountOf, shownUnitsOf, fieldCountOf_eq_length others, fieldCount, shownUnits,
      List.nil_append, Nat.zero_add]

/-- The units of a format are its own and those of the formats inside it. -/
theorem has_periodFieldsOf (unit : PeriodField) :
    ∀ elements : List Element, (periodFieldsOf elements).has unit = true ↔
      unit ∈ PeriodBuilder.units { elements } ∨ unit ∈ (unitGroupsOf elements).flatten
  | [] => by simp [periodFieldsOf, PeriodBuilder.units, unitGroupsOf]
  | .composite inner :: rest => by
    have own := has_periodFieldsOf unit inner
    have later := has_periodFieldsOf unit rest
    simp only [periodFieldsOf, periodFields, PeriodFieldSet.has_union, Bool.or_eq_true, own, later,
      unitGroupsOf, unitGroups, List.cons_append, List.flatten_cons, List.flatten_append,
      List.mem_append, PeriodBuilder.units_cons_composite]
    tauto
  | .number field :: rest => by
    rw [periodFieldsOf, periodFields, PeriodFieldSet.has_union, Bool.or_eq_true,
      has_periodFieldsOf unit rest, PeriodBuilder.units_cons_number, unitGroupsOf, unitGroups,
      List.nil_append, List.mem_append, or_assoc]
    cases field.selector <;> simp [FieldSelector.periodField?]
  | .literal _ :: rest | .name _ :: rest | .fraction _ :: rest | .twoDigitYear _ :: rest
  | .offset _ :: rest | .separator _ :: rest => by
    rw [periodFieldsOf, periodFields, PeriodFieldSet.has_union, PeriodFieldSet.has_empty,
      Bool.false_or, unitGroupsOf, unitGroups, List.nil_append]
    exact has_periodFieldsOf unit rest

end Element

/-! ## Periods that are all zero -/

namespace ZeroPolicy

/-- A zero is printed only where nothing else would be. -/
def IsRare (policy : ZeroPolicy) : Prop :=
  policy = rarelyLast ∨ policy = rarelyFirst

/-- The unit that stands for a period that is all zero, where zeros are rare. -/
def standIn? (policy : ZeroPolicy) (units : List PeriodField) : Option PeriodField :=
  match policy with
  | rarelyLast => units.argmax PeriodField.index
  | rarelyFirst => units.argmin PeriodField.index
  | always | never | ifSupported => none

variable {policy : ZeroPolicy} {units : List PeriodField} {unit : PeriodField}

theorem isSome_standIn? (rare : policy.IsRare) :
    (policy.standIn? units).isSome = true ↔ units ≠ [] := by
  rw [← Option.ne_none_iff_isSome]
  rcases rare with rfl | rfl <;> simp [standIn?]

theorem standIn?_of_subset (rare : policy.IsRare) {group : List PeriodField}
    (within : group ⊆ units) (first : unit ∈ policy.standIn? units) (member : unit ∈ group) :
    unit ∈ policy.standIn? group := by
  rcases rare with rfl | rfl
  · have greatest := (PeriodField.mem_argmax_index.mp first).2
    exact PeriodField.mem_argmax_index.mpr ⟨member, fun other own => greatest other (within own)⟩
  · have least := (PeriodField.mem_argmin_index.mp first).2
    exact PeriodField.mem_argmin_index.mpr ⟨member, fun other own => least other (within own)⟩

theorem mem_of_mem_standIn? (rare : policy.IsRare) (first : unit ∈ policy.standIn? units) :
    unit ∈ units := by
  rcases rare with rfl | rfl
  · exact (PeriodField.mem_argmax_index.mp first).1
  · exact (PeriodField.mem_argmin_index.mp first).1

theorem dueUnits_zero (rare : policy.IsRare) (units : List PeriodField) :
    policy.dueUnits .zero units = (policy.standIn? units).toFinset := by
  have zero : Period.zero.isZero = true := by decide
  have known : units.filter Period.zero.type.supports = units :=
    List.filter_eq_self.mpr fun unit _ => PeriodFieldSet.has_full unit
  rcases rare with rfl | rfl <;> simp only [dueUnits, standIn?, known, if_pos zero]

/-- A format prints one of its units for a period that is all zero, if it has units. -/
theorem chosen_zero (rare : policy.IsRare) (different : units.Nodup) :
    (policy.chosen .zero units).Perm (policy.standIn? units).toList := by
  have known : Period.zero.KnowsUnits := fun unit some => absurd (Period.get_zeroOf _ unit) some
  refine List.perm_of_nodup_nodup_toFinset_eq (different.filter _) ?_ ?_
  · cases policy.standIn? units <;> simp
  · rw [chosen, toFinset_filter_prints policy known, dueUnits_zero rare]
    cases policy.standIn? units <;> simp

end ZeroPolicy

namespace FormatTree

variable {tree : FormatTree} {policy : ZeroPolicy}

theorem mem_fields_iff {unit : PeriodField} :
    unit ∈ tree.periodFields.fields ↔ ∃ group ∈ tree.unitGroups, unit ∈ group := by
  rw [PeriodFieldSet.mem_fields, periodFields, Element.has_periodFieldsOf, unitGroups,
    Element.unitGroups, ← List.mem_append, ← List.flatten_cons, List.mem_flatten]

theorem shownUnits_zero_perm (built : tree.IsBuilt) (rare : policy.IsRare)
    (keep : Element.AllKeepTo policy tree.elements) (different : tree.unitGroups.flatten.Nodup)
    (culture : Culture) :
    (tree.shownUnits ⟨culture, .period .zero⟩).Perm
      (tree.unitGroups.filterMap policy.standIn?) := by
  have chosen : ∀ group ∈ tree.unitGroups,
      (policy.chosen .zero group).Perm (policy.standIn? group).toList :=
    fun group member => ZeroPolicy.chosen_zero rare ((List.nodup_flatten.mp different).1 group member)
  have shown := @Element.shownUnitsOf_perm policy .zero culture rfl _ _ keep built.knowEachOther
  rw [List.filterMap_eq_flatMap_toList]
  exact shown.trans (List.Perm.flatMap_left _ chosen)

/-- A period that is all zero is printed as one number by each format of a nest that has units of its
own, the one that stands in for these units. The unit that stands in for all units of the nest is
always printed, and nothing else is just where only one format of the nest has units. -/
theorem shownUnits_zero (built : tree.IsBuilt) (rare : policy.IsRare)
    (keep : Element.AllKeepTo policy tree.elements) (different : tree.unitGroups.flatten.Nodup)
    (culture : Culture) :
    let shown := tree.shownUnits ⟨culture, .period .zero⟩
    let formats := tree.unitGroups.countP (· ≠ [])
    shown.Perm (tree.unitGroups.filterMap policy.standIn?) ∧
      tree.fieldCount ⟨culture, .period .zero⟩ = formats ∧
      (∀ unit ∈ policy.standIn? tree.periodFields.fields, unit ∈ shown) ∧
      (shown = (policy.standIn? tree.periodFields.fields).toList ↔ formats ≤ 1) := by
  intro shown formats
  have perm : shown.Perm (tree.unitGroups.filterMap policy.standIn?) :=
    shownUnits_zero_perm built rare keep different culture
  have length : shown.length = formats := by
    rw [perm.length_eq, List.length_filterMap_eq_countP]
    exact List.countP_congr fun group _ => by
      rw [ZeroPolicy.isSome_standIn? rare, decide_eq_true_eq]
  have standsIn : ∀ unit ∈ policy.standIn? tree.periodFields.fields, unit ∈ shown := by
    intro unit first
    obtain ⟨group, member, own⟩ := mem_fields_iff.mp (ZeroPolicy.mem_of_mem_standIn? rare first)
    have within : group ⊆ tree.periodFields.fields :=
      fun other ofGroup => mem_fields_iff.mpr ⟨group, member, ofGroup⟩
    exact perm.mem_iff.mpr <| List.mem_filterMap.mpr
      ⟨group, member, ZeroPolicy.standIn?_of_subset rare within first own⟩
  refine ⟨perm, (Element.fieldCountOf_eq_length keep).trans length, standsIn, ?only, ?sole⟩
  case only =>
    intro alone
    rw [← length, alone]
    exact Option.length_toList_le
  case sole =>
    intro single
    rw [← length] at single
    cases first : policy.standIn? tree.periodFields.fields with
    | some unit =>
        have member := standsIn unit first
        obtain ⟨other, same⟩ := List.length_eq_one_iff.mp
          (Nat.le_antisymm single (List.length_pos_of_mem member))
        rw [same] at member ⊢
        rw [List.mem_singleton.mp member, Option.toList_some]
    | none =>
        refine List.eq_nil_iff_forall_not_mem.mpr fun unit member => ?_
        obtain ⟨group, ofTree, standIn⟩ := List.mem_filterMap.mp (perm.mem_iff.mp member)
        have some : tree.periodFields.fields ≠ [] := List.ne_nil_of_mem <|
          mem_fields_iff.mpr ⟨group, ofTree, ZeroPolicy.mem_of_mem_standIn? rare standIn⟩
        have found := (ZeroPolicy.isSome_standIn? rare).mpr some
        rw [first] at found
        cases found

/-- A format of days. -/
def ofDays : FormatTree :=
  ⟨0, [.number
    { selector := .period .days, minDigits := 1, maxParsedDigits := 10, zeroPolicy := .rarelyLast
      present := .singleton .days, trailing := some (.simple "d") }]⟩

/-- A format of hours behind the one of days. -/
def ofHours : FormatTree :=
  ⟨1, [.composite ofDays.elements, .number
    { selector := .period .hours, minDigits := 1, maxParsedDigits := 10, zeroPolicy := .rarelyLast
      present := .singleton .hours, trailing := some (.simple "h") }]⟩

theorem ofHours_isBuilt : ofHours.IsBuilt := by
  have days : ofDays.IsBuilt :=
    .period (PeriodBuilder.Reachable.operations .new [.unit .days, .trailing "d"] rfl) rfl
  have behind : PeriodBuilder.Reachable { elements := [.composite ofDays.elements] } :=
    @PeriodBuilder.Reachable.formatter {} _ ⟨some ofDays, some ofDays, .invariant, .standard⟩ _ .new
      days rfl rfl
  exact .period (behind.operations [.unit .hours, .trailing "h"] rfl) rfl

theorem ofHours_keeps : Element.AllKeepTo .rarelyLast ofHours.elements := by
  simp [ofHours, ofDays, Element.AllKeepTo, Element.KeepsTo, FieldSelector.periodField?]

theorem shownUnits_zero_ofHours :
    ofHours.IsBuilt ∧ ZeroPolicy.rarelyLast.IsRare ∧
      Element.AllKeepTo .rarelyLast ofHours.elements ∧ ofHours.unitGroups.flatten.Nodup ∧
      (ofHours.shownUnits ⟨.invariant, .period .zero⟩).Perm [.hours, .days] ∧
      ofHours.fieldCount ⟨.invariant, .period .zero⟩ = 2 ∧
      .hours ∈ ofHours.shownUnits ⟨.invariant, .period .zero⟩ ∧
      ofHours.shownUnits ⟨.invariant, .period .zero⟩ ≠ [.hours] := by
  have rare : ZeroPolicy.rarelyLast.IsRare := .inl rfl
  have different : ofHours.unitGroups.flatten.Nodup := by decide
  obtain ⟨perm, count, standsIn, sole⟩ :=
    shownUnits_zero ofHours_isBuilt rare ofHours_keeps different .invariant
  have first : ZeroPolicy.rarelyLast.standIn? ofHours.periodFields.fields = some .hours := by decide
  refine ⟨ofHours_isBuilt, rare, ofHours_keeps, different, perm, count, standsIn .hours first, ?_⟩
  intro alone
  exact absurd (sole.mp (alone.trans (by rw [first, Option.toList_some]))) (by decide)

/-- Of a period that is all zero days and hours are both printed, though the hours would stand in for
the days. -/
theorem zero_shown_twice :
    ofHours.IsBuilt ∧ Element.AllKeepTo .rarelyLast ofHours.elements ∧
      ofHours.unitGroups.flatten.Nodup ∧ ofHours.periodFields.fields = [.days, .hours] ∧
      ofHours.shownUnits ⟨.invariant, .period .zero⟩ = [.days, .hours] ∧
      ofHours.print ⟨.invariant, .period .zero⟩ = "0d0h".toList :=
  ⟨ofHours_isBuilt, ofHours_keeps, by decide, by decide, by cbv, by cbv⟩

end FormatTree

end ChronoText
