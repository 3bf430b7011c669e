import ChronoText.Proofs.Formatter.Reachable
import ChronoText.Proofs.Parsing.UnitAmounts

/-! Which units of a period are printed. Each number decides for itself, by the period and by the
units that it was told of when its format was finished. Together the numbers of a format print the
units that are due under its policy, and of a period that is all zero at most one where zeros are
rarely printed. -/

set_option autoImplicit false

namespace ChronoText

/-! ## Units that are due -/

namespace PeriodField

theorem mem_smaller {field other : PeriodField} :
    other ∈ field.smaller ↔ ¬ other.index ≤ field.index := by
  cases field <;> cases other <;> decide

theorem mem_larger {field other : PeriodField} :
    other ∈ field.larger ↔ ¬ field.index ≤ other.index := by
  cases field <;> cases other <;> decide

theorem mem_argmax_index {fields : List PeriodField} {field : PeriodField} :
    field ∈ fields.argmax index ↔ field ∈ fields ∧ ∀ other ∈ fields, other.index ≤ field.index := by
  rw [List.mem_argmax_iff]
  -- No two units have one index, so that the greatest is also the first of the greatest.
  refine and_congr_right fun _ => and_iff_left_of_imp fun greatest other member atLeast => ?_
  rw [index_inj (Nat.le_antisymm (greatest other member) atLeast)]

theorem mem_argmin_index {fields : List PeriodField} {field : PeriodField} :
    field ∈ fields.argmin index ↔ field ∈ fields ∧ ∀ other ∈ fields, field.index ≤ other.index := by
  rw [List.mem_argmin_iff]
  refine and_congr_right fun _ => and_iff_left_of_imp fun least other member atMost => ?_
  rw [index_inj (Nat.le_antisymm atMost (least other member))]

end PeriodField

namespace ZeroPolicy

/-- The units of a period that are to be printed, of those that a format has. Where zeros are rarely
printed, a period that is all zero shows the smallest or the largest unit that its type knows. -/
def dueUnits (policy : ZeroPolicy) (period : Period) (units : List PeriodField) :
    Finset PeriodField :=
  let known := units.filter period.type.supports
  let nonzero := units.filter fun unit => period.get unit ≠ 0
  match policy with
  | always => units.toFinset
  | ifSupported => known.toFinset
  | never => nonzero.toFinset
  | rarelyLast =>
    if period.isZero then (known.argmax PeriodField.index).toFinset else nonzero.toFinset
  | rarelyFirst =>
    if period.isZero then (known.argmin PeriodField.index).toFinset else nonzero.toFinset

variable {period : Period} {units : List PeriodField} {unit : PeriodField}

theorem no_rival_iff {beyond : List PeriodField} {within : PeriodField → Prop}
    (mem_beyond : ∀ {other}, other ∈ beyond ↔ ¬ within other) :
    beyond.any (fun other => period.type.supports other &&
        (PeriodFieldSet.ofList units).has other) = false ↔
      ∀ other ∈ units.filter period.type.supports, within other := by
  simp only [List.any_eq_false, mem_beyond, PeriodFieldSet.has_ofList, List.mem_filter,
    Bool.and_eq_true, decide_eq_true_eq, not_and]
  constructor
  · rintro none other ⟨member, known⟩
    by_contra outside
    exact none other outside known member
  · intro all other outside known member
    exact outside (all other ⟨member, known⟩)

theorem rarely_iff (known : period.KnowsUnits) (rival : Bool) :
    (period.type.supports unit && (period.get unit != 0 || period.isZero && !rival)) = true ↔
      if period.isZero then period.type.supports unit = true ∧ rival = false
      else period.get unit ≠ 0 := by
  cases zero : period.isZero with
  | true =>
      have none : period.get unit = 0 :=
        eq_of_beq (List.all_eq_true.mp zero unit (PeriodField.mem_all unit))
      simp [none]
  | false =>
      simp only [Bool.false_and, Bool.or_false, Bool.and_eq_true, bne_iff_ne, Bool.false_eq_true,
        if_false]
      exact and_iff_right_of_imp (known unit)

theorem prints_iff_mem_dueUnits (policy : ZeroPolicy) (known : period.KnowsUnits)
    (member : unit ∈ units) :
    policy.prints unit period (.ofList units) = true ↔ unit ∈ policy.dueUnits period units := by
  cases policy with
  | always => simp [prints, dueUnits, member]
  | ifSupported => simp [prints, dueUnits, member]
  | never =>
      simp only [prints, dueUnits, Bool.and_eq_true, bne_iff_ne, List.mem_toFinset, List.mem_filter,
        member, true_and, decide_eq_true_eq]
      exact and_iff_right_of_imp (known unit)
  | rarelyLast =>
      rw [prints, rarely_iff known, dueUnits]
      split
      · rw [no_rival_iff PeriodField.mem_smaller, Option.mem_toFinset, PeriodField.mem_argmax_index,
          List.mem_filter, and_iff_right member]
      · simp [member]
  | rarelyFirst =>
      rw [prints, rarely_iff known, dueUnits]
      split
      · rw [no_rival_iff PeriodField.mem_larger, Option.mem_toFinset, PeriodField.mem_argmin_index,
          List.mem_filter, and_iff_right member]
      · simp [member]

theorem mem_of_mem_dueUnits {policy : ZeroPolicy} (due : unit ∈ policy.dueUnits period units) :
    unit ∈ units := by
  have of_filter {test : PeriodField → Bool} (kept : unit ∈ (units.filter test).toFinset) :
      unit ∈ units :=
    List.mem_of_mem_filter (List.mem_toFinset.mp kept)
  cases policy with
  | always => exact List.mem_toFinset.mp due
  | ifSupported => exact of_filter due
  | never => exact of_filter due
  | rarelyLast =>
      rw [dueUnits] at due
      split at due
      · exact List.mem_of_mem_filter (List.argmax_mem (Option.mem_toFinset.mp due))
      · exact of_filter due
  | rarelyFirst =>
      rw [dueUnits] at due
      split at due
      · exact List.mem_of_mem_filter (List.argmin_mem (Option.mem_toFinset.mp due))
      · exact of_filter due

theorem toFinset_filter_prints (policy : ZeroPolicy) (known : period.KnowsUnits)
    (units : List PeriodField) :
    (units.filter (policy.prints · period (.ofList units))).toFinset =
      policy.dueUnits period units := by
  ext unit
  rw [List.mem_toFinset, List.mem_filter]
  constructor
  · rintro ⟨member, prints⟩
    exact (prints_iff_mem_dueUnits policy known member).mp prints
  · intro due
    have member := mem_of_mem_dueUnits due
    exact ⟨member, (prints_iff_mem_dueUnits policy known member).mpr due⟩

end ZeroPolicy

/-! ## Formats under one policy -/

namespace Element

/-- A number of a unit under the policy, which has no milliseconds of its own to print, or text among
such numbers. -/
def FollowsPolicy (policy : ZeroPolicy) : Element → Prop
  | .number field =>
    field.selector.periodField?.isSome = true ∧ field.zeroPolicy = policy ∧
      field.optionalMillis = false
  | .literal _ | .separator _ => True
  | .name _ | .fraction _ | .twoDigitYear _ | .offset _ | .composite _ => False

def printedUnit? (context : PrintContext) : Element → Option PeriodField
  | .number field => if field.print context = [] then none else field.selector.periodField?
  | .literal _ | .name _ | .fraction _ | .twoDigitYear _ | .offset _ | .separator _
  | .composite _ => none

end Element

/-- The units whose numbers have a text, in the order in which they are printed. -/
def FormatTree.printedUnits (tree : FormatTree) (context : PrintContext) : List PeriodField :=
  tree.elements.filterMap (Element.printedUnit? context)

namespace PeriodBuilder

/-- All units of the format follow one policy and come once each, with nothing but literals and
separators among them. -/
structure FollowsPolicy (builder : PeriodBuilder) (policy : ZeroPolicy) : Prop where
  elements : ∀ element ∈ builder.elements, element.FollowsPolicy policy
  different : builder.units.Nodup

variable {policy : ZeroPolicy} {period : Period} {present : PeriodFieldSet} {culture : Culture}

theorem printed?_of_followsPolicy {number : NumberField}
    (follows : (Element.number number).FollowsPolicy policy) :
    ∃ unit, number.selector = .period unit ∧
      ({ number with present } : NumberField).printed? ⟨culture, .period period⟩ =
        if policy.prints unit period present then some (.ofInt (period.get unit).toInt)
        else none := by
  obtain ⟨unitField, rfl, plain⟩ := follows
  cases selector : number.selector with
  | dateTime field =>
      rw [selector] at unitField
      cases unitField
  | period unit =>
      refine ⟨unit, rfl, ?_⟩
      simp [NumberField.printed?, PrintContext.period?, NumberField.printedUnit?, plain]

theorem printedUnits_tell {elements : List Element}
    (follow : ∀ element ∈ elements, element.FollowsPolicy policy) :
    (elements.map (tell present)).filterMap (Element.printedUnit? ⟨culture, .period period⟩) =
      (units { elements }).filter (policy.prints · period present) := by
  induction elements with
  | nil => rfl
  | cons element elements ih =>
      obtain ⟨own, others⟩ := List.forall_mem_cons.mp follow
      cases element with
      | literal | separator => exact ih others
      | number number =>
          obtain ⟨unit, selector, printed⟩ :=
            @printed?_of_followsPolicy policy period present culture number own
          have unitField : number.selector.periodField? = some unit := by
            rw [selector, FieldSelector.periodField?]
          have told : tell present (.number number) = .number { number with present } := by
            rw [tell, unitField, Option.isSome_some, if_pos rfl]
          have shown : Element.printedUnit? ⟨culture, .period period⟩
              (.number { number with present }) =
                if policy.prints unit period present then some unit else none := by
            rw [Element.printedUnit?, unitField]
            simp only [NumberField.print_eq_nil_iff, printed]
            split <;> rfl
          have units_cons : units { elements := .number number :: elements } =
              unit :: units { elements } :=
            List.filterMap_cons_some unitField
          rw [List.map_cons, told, List.filterMap_cons, shown, ih others, units_cons,
            List.filter_cons]
          cases policy.prints unit period present <;> rfl
      | _ => cases own

theorem fieldCount_eq {element : Element} (follows : element.FollowsPolicy policy)
    (context : PrintContext) :
    element.fieldCount context = (element.printedUnit? context).toList.length := by
  cases element with
  | literal | separator => rfl
  | number number =>
      obtain ⟨unit, unitField⟩ := Option.isSome_iff_exists.mp follows.1
      rw [Element.fieldCount, NumberField.fieldCount_eq_ite, Element.printedUnit?, unitField]
      split <;> rfl
  | _ => cases follows

theorem fieldCountOf_eq {elements : List Element}
    (follow : ∀ element ∈ elements, element.FollowsPolicy policy) (context : PrintContext) :
    Element.fieldCountOf context elements =
      (elements.filterMap (Element.printedUnit? context)).length := by
  induction elements with
  | nil => rfl
  | cons element elements ih =>
      obtain ⟨own, others⟩ := List.forall_mem_cons.mp follow
      rw [Element.fieldCountOf, fieldCount_eq own, ih others, List.filterMap_cons]
      cases element.printedUnit? context with
      | none => exact Nat.zero_add _
      | some unit => exact Nat.add_comm 1 _

theorem followsPolicy_tell {element : Element} (follows : element.FollowsPolicy policy) :
    (tell present element).FollowsPolicy policy := by
  cases element with
  | literal | separator => trivial
  | number number =>
      rw [tell, if_pos follows.1]
      exact follows
  | _ => cases follows

/-! ## Sessions under one policy -/

/-- The operation leaves the policy as it is, and appends no milliseconds to the seconds. -/
def Operation.Keeps (policy : ZeroPolicy) : Operation → Prop
  | .zeroPolicy other => other = policy
  | .secondsWithOptionalMillis => False
  | _ => True

def Operation.unit? : Operation → Option PeriodField
  | .unit field => some field
  | .secondsWithOptionalMillis => some .seconds
  | _ => none

/-- The builder has followed the policy and will give it to the units that come next. -/
structure IsUnder (builder : PeriodBuilder) (policy : ZeroPolicy) : Prop where
  setting : builder.zeroPolicy = policy
  elements : ∀ element ∈ builder.elements, element.FollowsPolicy policy

namespace IsUnder

variable {builder next : PeriodBuilder} (under : builder.IsUnder policy)

include under

theorem append {element : Element} (follows : element.FollowsPolicy policy) :
    (builder.append element).IsUnder policy where
  setting := under.setting
  elements := by
    rw [PeriodBuilder.append, List.forall_mem_append, List.forall_mem_singleton]
    exact ⟨under.elements, follows⟩

theorem setLeading {affix : Affix} (accepted : builder.setLeading affix = .ok next) :
    next.IsUnder policy ∧ next.units = builder.units := by
  obtain ⟨_, rfl⟩ := setLeading_ok accepted
  exact ⟨⟨under.setting, under.elements⟩, rfl⟩

theorem setTrailing {affix : Affix} (accepted : builder.setTrailing affix = .ok next) :
    next.IsUnder policy ∧ next.units = builder.units := by
  obtain ⟨_, before, number, elements, rfl⟩ := setTrailing_ok accepted
  have follow := under.elements
  rw [elements, List.forall_mem_append, List.forall_mem_singleton] at follow
  refine ⟨⟨under.setting, ?_⟩, ?_⟩
  · rw [List.forall_mem_append, List.forall_mem_singleton]
    exact follow
  · rw [units, units, elements, List.filterMap_append, List.filterMap_append]
    rfl

theorem addSeparator {between : Separator} (accepted : builder.addSeparator between = .ok next) :
    next.IsUnder policy ∧ next.units = builder.units := by
  obtain ⟨_, _, ⟨_, _, rfl⟩ | ⟨_, _, rfl⟩⟩ := addSeparator_ok accepted
  · exact ⟨under, rfl⟩
  · refine ⟨under.append trivial, ?_⟩
    exact (units_append _ _).trans (List.append_nil _)

theorem perform {operation : Operation} (keeps : operation.Keeps policy)
    (accepted : builder.perform operation = .ok next) :
    next.IsUnder policy ∧ next.units = builder.units ++ operation.unit?.toList := by
  have same {after : PeriodBuilder} (kept : after.IsUnder policy ∧ after.units = builder.units) :
      after.IsUnder policy ∧ after.units = builder.units ++ [] := by
    rwa [List.append_nil]
  cases operation with
  | zeroPolicy other =>
      cases accepted
      exact same ⟨⟨keeps, under.elements⟩, rfl⟩
  | minPrintedDigits | maxParsedDigits | rejectSigned =>
      cases accepted
      exact same ⟨⟨under.setting, under.elements⟩, rfl⟩
  | unit unit =>
      cases accepted
      have follows : (Element.number (builder.number unit)).FollowsPolicy policy :=
        ⟨rfl, under.setting, rfl⟩
      obtain ⟨setting, elements⟩ := under.append follows
      exact ⟨⟨setting, elements⟩, units_append _ _⟩
  | secondsWithOptionalMillis => cases keeps
  | leading text =>
      obtain ⟨_, _, accepted⟩ := bind_ok accepted
      exact same (under.setLeading accepted)
  | pluralLeading one many =>
      obtain ⟨_, _, accepted⟩ := bind_ok accepted
      obtain ⟨_, _, accepted⟩ := bind_ok accepted
      exact same (under.setLeading accepted)
  | trailing text =>
      obtain ⟨_, _, accepted⟩ := bind_ok accepted
      exact same (under.setTrailing accepted)
  | pluralTrailing one many =>
      obtain ⟨_, _, accepted⟩ := bind_ok accepted
      obtain ⟨_, _, accepted⟩ := bind_ok accepted
      exact same (under.setTrailing accepted)
  | literal text =>
      obtain ⟨_, _, rfl⟩ := appendLiteral_ok accepted
      exact ⟨under.append trivial, units_append _ _⟩
  | separator | separatorIfFieldsAfter | separatorIfFieldsBefore =>
      exact same (under.addSeparator accepted)
  | separatorWithFinal text finalText =>
      obtain ⟨_, _, accepted⟩ := bind_ok accepted
      exact same (under.addSeparator accepted)

theorem operations {operations : List Operation}
    (keep : ∀ operation ∈ operations, operation.Keeps policy)
    (accepted : operations.foldlM PeriodBuilder.perform builder = .ok next) :
    next.IsUnder policy ∧ next.units = builder.units ++ operations.filterMap Operation.unit? := by
  induction operations generalizing builder with
  | nil =>
      cases accepted
      exact ⟨under, (List.append_nil _).symm⟩
  | cons operation operations ih =>
      obtain ⟨own, others⟩ := List.forall_mem_cons.mp keep
      rw [List.foldlM_cons] at accepted
      obtain ⟨between, first, accepted⟩ := bind_ok accepted
      obtain ⟨step, stepUnits⟩ := under.perform own first
      obtain ⟨run, runUnits⟩ := ih step others accepted
      refine ⟨run, ?_⟩
      rw [runUnits, stepUnits, List.append_assoc, List.filterMap_cons]
      cases operation.unit? <;> rfl

end IsUnder

/-- A session that sets the policy once and appends no unit twice makes a format whose units follow
it. -/
theorem followsPolicy_of_operations {operations : List Operation} {builder : PeriodBuilder}
    (keep : ∀ operation ∈ operations, operation.Keeps policy)
    (different : (operations.filterMap Operation.unit?).Nodup)
    (accepted : operations.foldlM perform { zeroPolicy := policy } = .ok builder) :
    builder.FollowsPolicy policy := by
  have fresh : IsUnder { zeroPolicy := policy } policy := ⟨rfl, nofun⟩
  obtain ⟨run, units⟩ := fresh.operations keep accepted
  exact ⟨run.elements, units ▸ different⟩

/-! ## Finished formats -/

/-- A finished format whose units follow one policy prints those that are due, and each of them
counts as a field. -/
theorem printedUnits_eq_dueUnits {builder : PeriodBuilder} {handle : Nat} {tree : FormatTree}
    (follows : builder.FollowsPolicy policy) (finished : builder.tree handle = .ok tree)
    (known : period.KnowsUnits) (culture : Culture) :
    (tree.printedUnits ⟨culture, .period period⟩).toFinset =
        policy.dueUnits period builder.units ∧
      tree.fieldCount ⟨culture, .period period⟩ =
        (policy.dueUnits period builder.units).card := by
  obtain ⟨_, _, made⟩ := bind_ok finished
  cases made
  have printed : FormatTree.printedUnits ⟨handle, builder.finishedElements⟩
      ⟨culture, .period period⟩ =
        builder.units.filter (policy.prints · period (.ofList builder.units)) := by
    rw [FormatTree.printedUnits, finishedElements_eq, printedUnits_tell follows.elements]
    rfl
  have told : ∀ element ∈ builder.finishedElements, element.FollowsPolicy policy := by
    rw [finishedElements_eq, List.forall_mem_map]
    exact fun element member => followsPolicy_tell (follows.elements element member)
  have due := ZeroPolicy.toFinset_filter_prints policy known builder.units
  refine ⟨by rw [printed, due], ?_⟩
  rw [FormatTree.fieldCount, fieldCountOf_eq told, ← FormatTree.printedUnits.eq_def
    ⟨handle, builder.finishedElements⟩, printed, ← due,
    List.toFinset_card_of_nodup (follows.different.filter _)]

/-- Minutes, days and hours in this order, with a literal, a separator and affixes of all kinds among
them. -/
def minutesBeforeDays : List Operation :=
  [.leading "~", .unit .minutes, .pluralTrailing " minute" " minutes", .literal "; ",
    .minPrintedDigits 2, .unit .days, .trailing "d", .separatorWithFinal ", " " and ",
    .pluralLeading "one " "some ", .zeroPolicy .rarelyFirst, .unit .hours]

/-- A period of no time at all, whose type knows no days, is zero hours. -/
theorem printedUnits_eq_dueUnits_minutesBeforeDays :
    ∃ builder tree,
      minutesBeforeDays.foldlM perform { zeroPolicy := .rarelyFirst } = .ok builder ∧
        builder.FollowsPolicy .rarelyFirst ∧ builder.tree 0 = .ok tree ∧
        (Period.zeroOf .time).KnowsUnits ∧
        (tree.printedUnits ⟨.invariant, .period (.zeroOf .time)⟩).toFinset = {.hours} ∧
        tree.fieldCount ⟨.invariant, .period (.zeroOf .time)⟩ = 1 := by
  have keep : ∀ operation ∈ minutesBeforeDays, operation.Keeps .rarelyFirst := by
    simp [minutesBeforeDays, Operation.Keeps]
  have follows := followsPolicy_of_operations keep (by decide) rfl
  have known : (Period.zeroOf .time).KnowsUnits :=
    fun unit other => absurd (Period.get_zeroOf .time unit) other
  obtain ⟨printed, count⟩ :=
    printedUnits_eq_dueUnits follows (rfl : PeriodBuilder.tree _ 0 = .ok _) known .invariant
  exact ⟨_, _, rfl, follows, rfl, known, printed.trans (by decide), count.trans (by decide)⟩

end PeriodBuilder

end ChronoText
