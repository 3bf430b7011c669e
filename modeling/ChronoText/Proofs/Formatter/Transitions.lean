import ChronoText.Formatter.DateTime
import Mathlib.Data.List.Induction

/-! Formatters of date-times with their settings changed in turn. A change that would make no
difference is left out, where a formatter knows its zone and whether it keeps offsets as two settings.
That this is right for these two settings rests on their never being set together. -/

set_option autoImplicit false

namespace ChronoText

/-! ## Changes -/

/-- A change to one setting of a formatter. -/
inductive Transition where
  | culture (culture : Culture)
  | calendar (calendar : Calendar)
  | zone (zone : Zone)
  | offsetParsed
  | pivotYear (pivotYear : Int)
  | styles (styles : ParseStyles)

inductive Setting where
  | culture
  | calendar
  | offsets
  | pivotYear
  | styles
  deriving DecidableEq

namespace Transition

/-- The setting that is changed. A zone and the keeping of offsets displace each other. -/
def setting : Transition → Setting
  | culture _ => .culture
  | calendar _ => .calendar
  | zone _ | offsetParsed => .offsets
  | pivotYear _ => .pivotYear
  | styles _ => .styles

def culture? : Transition → Option Culture
  | culture own => some own
  | calendar _ | zone _ | offsetParsed | pivotYear _ | styles _ => none

def calendar? : Transition → Option Calendar
  | calendar own => some own
  | culture _ | zone _ | offsetParsed | pivotYear _ | styles _ => none

def offsets? : Transition → Option OffsetHandling
  | zone own => some (.inZone own)
  | offsetParsed => some .asParsed
  | culture _ | calendar _ | pivotYear _ | styles _ => none

def pivotYear? : Transition → Option Int
  | pivotYear own => some own
  | culture _ | calendar _ | zone _ | offsetParsed | styles _ => none

def styles? : Transition → Option ParseStyles
  | styles own => some own
  | culture _ | calendar _ | zone _ | offsetParsed | pivotYear _ => none

/-- The value of the last of the transitions that have one. -/
def last? {Value : Type} (value? : Transition → Option Value) (transitions : List Transition) :
    Option Value :=
  (transitions.filterMap value?).getLast?

end Transition

namespace DateTimeFormatter

def change (formatter : DateTimeFormatter) : Transition → DateTimeFormatter
  | .culture culture => formatter.withCulture culture
  | .calendar calendar => formatter.withCalendar calendar
  | .zone zone => formatter.withZone zone
  | .offsetParsed => formatter.withOffsetParsed
  | .pivotYear pivotYear => formatter.withPivotYear pivotYear
  | .styles styles => formatter.withStyles styles

def changed (formatter : DateTimeFormatter) (transitions : List Transition) : DateTimeFormatter :=
  transitions.foldl change formatter

end DateTimeFormatter

/-! ## Configurations -/

/-- The settings as they are stored and compared, with trees, calendars and zones for their handles. -/
structure Configuration where
  printer? : Option Nat
  parser? : Option Nat
  culture : Culture
  calendar? : Option Nat
  zone? : Option Nat
  pivotYear? : Option Int
  keepsParsedOffset : Bool
  styles : ParseStyles
  deriving DecidableEq

def DateTimeFormatter.configuration (formatter : DateTimeFormatter) : Configuration where
  printer? := formatter.printer?.map (·.handle)
  parser? := formatter.parser?.map (·.handle)
  culture := formatter.culture
  calendar? := formatter.calendar?.map (·.handle)
  zone? := formatter.zone?.map (·.handle)
  pivotYear? := formatter.pivotYear?
  keepsParsedOffset := formatter.keepsParsedOffset
  styles := formatter.styles

namespace Configuration

/-- The setting already has the value that the transition wants. -/
def Has (own : Configuration) : Transition → Prop
  | .culture culture => own.culture = culture
  | .calendar calendar => own.calendar? = some calendar.handle
  | .zone zone => own.zone? = some zone.handle
  | .offsetParsed => own.keepsParsedOffset = true
  | .pivotYear pivotYear => own.pivotYear? = some pivotYear
  | .styles styles => own.styles = styles

instance (own : Configuration) : (transition : Transition) → Decidable (own.Has transition)
  | .culture _ => inferInstanceAs (Decidable (own.culture = _))
  | .calendar _ => inferInstanceAs (Decidable (own.calendar? = _))
  | .zone _ => inferInstanceAs (Decidable (own.zone? = _))
  | .offsetParsed => inferInstanceAs (Decidable (own.keepsParsedOffset = _))
  | .pivotYear _ => inferInstanceAs (Decidable (own.pivotYear? = _))
  | .styles _ => inferInstanceAs (Decidable (own.styles = _))

def replace (own : Configuration) : Transition → Configuration
  | .culture culture => { own with culture }
  | .calendar calendar => { own with calendar? := some calendar.handle }
  | .zone zone => { own with zone? := some zone.handle, keepsParsedOffset := false }
  | .offsetParsed => { own with zone? := none, keepsParsedOffset := true }
  | .pivotYear pivotYear => { own with pivotYear? := some pivotYear }
  | .styles styles => { own with styles }

/-- The configuration as it is where nothing is wanted that it does not have, otherwise with the setting
replaced. -/
def change (own : Configuration) (transition : Transition) : Configuration :=
  if own.Has transition then own else own.replace transition

def changed (own : Configuration) (transitions : List Transition) : Configuration :=
  transitions.foldl change own

/-- There is no zone where offsets are kept. -/
def IsExclusive (own : Configuration) : Prop :=
  own.keepsParsedOffset = true → own.zone? = none

variable {own : Configuration}

theorem IsExclusive.replace (exclusive : own.IsExclusive) (transition : Transition) :
    (own.replace transition).IsExclusive := by
  cases transition with
  | zone zone => intro keeps; cases keeps
  | offsetParsed => intro _; rfl
  | culture | calendar | pivotYear | styles => exact exclusive

theorem IsExclusive.change (exclusive : own.IsExclusive) (transition : Transition) :
    (own.change transition).IsExclusive := by
  unfold Configuration.change
  split
  · exact exclusive
  · exact exclusive.replace transition

theorem IsExclusive.changed (exclusive : own.IsExclusive) (transitions : List Transition) :
    (own.changed transitions).IsExclusive := by
  induction transitions generalizing own with
  | nil => exact exclusive
  | cons transition transitions ih => exact ih (exclusive.change transition)

/-- Replacing a setting by the value that it has makes no difference, unless there were a zone where
offsets are kept. -/
theorem IsExclusive.replace_eq_self_iff (exclusive : own.IsExclusive) (transition : Transition) :
    own.replace transition = own ↔ own.Has transition := by
  obtain ⟨printer?, parser?, culture, calendar?, zone?, pivotYear?, keeps, styles⟩ := own
  cases transition with
  | zone zone =>
      simp only [Configuration.replace, Has, mk.injEq, true_and, and_true]
      constructor
      · rintro ⟨has, _⟩
        exact has.symm
      · intro has
        refine ⟨has.symm, ?_⟩
        cases keeps with
        | false => rfl
        | true => cases has.symm.trans (exclusive rfl)
  | offsetParsed =>
      simp only [Configuration.replace, Has, mk.injEq, true_and, and_true]
      constructor
      · rintro ⟨_, keeps⟩
        exact keeps.symm
      · intro keeps
        exact ⟨(exclusive keeps).symm, keeps.symm⟩
  | culture | calendar | pivotYear | styles =>
      simp only [Configuration.replace, Has, mk.injEq, true_and, and_true]
      exact eq_comm

theorem IsExclusive.change_eq_replace (exclusive : own.IsExclusive) (transition : Transition) :
    own.change transition = own.replace transition := by
  unfold Configuration.change
  split
  · next has => exact ((exclusive.replace_eq_self_iff transition).mpr has).symm
  · rfl

end Configuration

/-! ## Formatters and their configurations -/

namespace FormatTree

theorem sameOption_iff (first second : Option FormatTree) :
    sameOption first second = true ↔ first.map (·.handle) = second.map (·.handle) := by
  cases first <;> cases second <;> simp [sameOption, same]

end FormatTree

namespace DateTimeFormatter

theorem same_iff (first second : DateTimeFormatter) :
    first.same second = true ↔ first.configuration = second.configuration := by
  simp only [same, configuration, Bool.and_eq_true, FormatTree.sameOption_iff, decide_eq_true_eq,
    Configuration.mk.injEq, and_assoc]

theorem configuration_isExclusive (formatter : DateTimeFormatter) :
    formatter.configuration.IsExclusive := by
  intro keeps
  cases offsets : formatter.offsets with
  | asParsed => simp only [configuration, zone?, offsets, Option.map_none]
  | utc | inZone zone => simp [configuration, keepsParsedOffset, offsets] at keeps

theorem configuration_change (formatter : DateTimeFormatter) (transition : Transition) :
    (formatter.change transition).configuration = formatter.configuration.change transition := by
  rw [formatter.configuration_isExclusive.change_eq_replace]
  cases transition <;> rfl

theorem configuration_changed (formatter : DateTimeFormatter) (transitions : List Transition) :
    (formatter.changed transitions).configuration = formatter.configuration.changed transitions := by
  induction transitions generalizing formatter with
  | nil => rfl
  | cons transition transitions ih =>
      have first := formatter.configuration_change transition
      have others := ih (formatter.change transition)
      rw [first] at others
      exact others

/-- A transition makes an equal formatter just if there is nothing that it changes. -/
theorem same_change_iff (formatter : DateTimeFormatter) (transition : Transition) :
    (formatter.change transition).same formatter = true ↔ formatter.configuration.Has transition := by
  have exclusive := formatter.configuration_isExclusive
  rw [same_iff, configuration_change, exclusive.change_eq_replace]
  exact exclusive.replace_eq_self_iff transition

/-! ## Transitions in turn -/

/-- A value that is set by every transition with a value of its own, and by no other, is that of the last
such transition. -/
theorem changed_eq_last {Own Value : Type} {value : DateTimeFormatter → Value}
    {own? : Transition → Option Own} {make : Own → Value}
    (sets : ∀ formatter transition,
      value (change formatter transition) = ((own? transition).map make).getD (value formatter))
    (formatter : DateTimeFormatter) (transitions : List Transition) :
    value (formatter.changed transitions) =
      ((Transition.last? own? transitions).map make).getD (value formatter) := by
  induction transitions using List.reverseRecOn with
  | nil => rfl
  | append_singleton transitions transition ih =>
      have step : formatter.changed (transitions ++ [transition]) =
          (formatter.changed transitions).change transition := List.foldl_append ..
      rw [step, sets, ih]
      unfold Transition.last?
      rw [List.filterMap_append]
      cases own : own? transition with
      | none => simp [own]
      | some own => simp [own]

section Last

variable (formatter : DateTimeFormatter) (transitions : List Transition)

theorem culture_changed :
    (formatter.changed transitions).culture =
      (Transition.last? Transition.culture? transitions).getD formatter.culture := by
  have last := @changed_eq_last _ _ culture Transition.culture? id
    (by rintro _ (_ | _ | _ | _ | _ | _) <;> rfl) formatter transitions
  rwa [Option.map_id, id] at last

theorem calendar?_changed :
    (formatter.changed transitions).calendar? =
      (Transition.last? Transition.calendar? transitions).or formatter.calendar? := by
  have last := @changed_eq_last _ _ calendar? Transition.calendar? some
    (by rintro _ (_ | _ | _ | _ | _ | _) <;> rfl) formatter transitions
  rw [last]
  cases Transition.last? Transition.calendar? transitions <;> rfl

/-- Of the transitions to a zone and to the keeping of offsets the last one has the say on both. -/
theorem offsets_changed :
    (formatter.changed transitions).offsets =
      (Transition.last? Transition.offsets? transitions).getD formatter.offsets := by
  have last := @changed_eq_last _ _ offsets Transition.offsets? id
    (by rintro _ (_ | _ | _ | _ | _ | _) <;> rfl) formatter transitions
  rwa [Option.map_id, id] at last

theorem pivotYear?_changed :
    (formatter.changed transitions).pivotYear? =
      (Transition.last? Transition.pivotYear? transitions).or formatter.pivotYear? := by
  have last := @changed_eq_last _ _ pivotYear? Transition.pivotYear? some
    (by rintro _ (_ | _ | _ | _ | _ | _) <;> rfl) formatter transitions
  rw [last]
  cases Transition.last? Transition.pivotYear? transitions <;> rfl

theorem styles_changed :
    (formatter.changed transitions).styles =
      (Transition.last? Transition.styles? transitions).getD formatter.styles := by
  have last := @changed_eq_last _ _ styles Transition.styles? id
    (by rintro _ (_ | _ | _ | _ | _ | _) <;> rfl) formatter transitions
  rwa [Option.map_id, id] at last

end Last

theorem printer?_changed (formatter : DateTimeFormatter) (transitions : List Transition) :
    (formatter.changed transitions).printer? = formatter.printer? ∧
      (formatter.changed transitions).parser? = formatter.parser? := by
  induction transitions generalizing formatter with
  | nil => exact ⟨rfl, rfl⟩
  | cons transition transitions ih =>
      obtain ⟨printer, parser⟩ := ih (formatter.change transition)
      cases transition <;> exact ⟨printer, parser⟩

theorem change_comm (formatter : DateTimeFormatter) {first second : Transition}
    (apart : first.setting ≠ second.setting) :
    (formatter.change first).change second = (formatter.change second).change first := by
  cases first <;> cases second <;> first | rfl | exact absurd rfl apart

/-- The later one of the two displaces the other. -/
theorem zone_offsetParsed_not_same (formatter : DateTimeFormatter) (zone : Zone) :
    ((formatter.change (.zone zone)).change .offsetParsed).same
      ((formatter.change .offsetParsed).change (.zone zone)) = false := by
  rw [← Bool.not_eq_true, same_iff]
  intro equal
  cases congrArg Configuration.keepsParsedOffset equal

/-- Formatters are configured by the last transitions alone. From a new formatter on, a sequence of
transitions that are left out where they would make no difference gets to the settings of the formatter
that all of them make. Those never are a zone and the keeping of offsets at once. The trees are the given
ones, every other setting is that of the last transition to it or else the default, and the last one to a
zone or to the keeping of offsets decides both. A further transition makes an equal formatter just if it
is to the value that is set, and two further ones come to the same in either order unless they displace
each other, which a zone and the keeping of offsets always do. -/
theorem changed_canonical (printer? parser? : Option FormatTree) (transitions : List Transition) :
    let start : DateTimeFormatter := { printer?, parser? }
    let formatter := start.changed transitions
    let stored := start.configuration.changed transitions
    stored = formatter.configuration ∧
    ¬ (stored.zone?.isSome ∧ stored.keepsParsedOffset = true) ∧
    ¬ (formatter.zone?.isSome ∧ formatter.keepsParsedOffset = true) ∧
    formatter.printer? = printer? ∧ formatter.parser? = parser? ∧
    formatter.culture = (Transition.last? Transition.culture? transitions).getD .invariant ∧
    formatter.calendar? = Transition.last? Transition.calendar? transitions ∧
    formatter.pivotYear? = Transition.last? Transition.pivotYear? transitions ∧
    formatter.styles = (Transition.last? Transition.styles? transitions).getD {} ∧
    (formatter.zone?, formatter.keepsParsedOffset) =
      (match Transition.last? Transition.offsets? transitions with
        | some (.inZone zone) => (some zone, false)
        | some .asParsed => (none, true)
        | some .utc | none => (none, false)) ∧
    (∀ transition, (formatter.change transition).same formatter = true ↔ stored.Has transition) ∧
    (∀ first second, first.setting ≠ second.setting →
      (formatter.change first).change second = (formatter.change second).change first) ∧
    ∀ zone, ((formatter.change (.zone zone)).change .offsetParsed).same
      ((formatter.change .offsetParsed).change (.zone zone)) = false := by
  intro start formatter stored
  have same : stored = formatter.configuration := (start.configuration_changed transitions).symm
  have exclusive : stored.IsExclusive := start.configuration_isExclusive.changed transitions
  have storedExclusive : ¬ (stored.zone?.isSome ∧ stored.keepsParsedOffset = true) := by
    rintro ⟨zoned, keeps⟩
    rw [exclusive keeps] at zoned
    cases zoned
  obtain ⟨printer, parser⟩ := start.printer?_changed transitions
  refine ⟨same, storedExclusive, ?_, printer, parser, start.culture_changed transitions, ?_, ?_,
    start.styles_changed transitions, ?_, fun transition => ?_,
    fun first second => formatter.change_comm, formatter.zone_offsetParsed_not_same⟩
  · rintro ⟨zoned, keeps⟩
    refine storedExclusive ⟨?_, ?_⟩
    · rw [same]
      simpa [configuration] using zoned
    · rw [same]
      exact keeps
  · exact (start.calendar?_changed transitions).trans Option.or_none
  · exact (start.pivotYear?_changed transitions).trans Option.or_none
  · have offsets : formatter.offsets = _ := start.offsets_changed transitions
    unfold zone? keepsParsedOffset
    rw [offsets]
    cases Transition.last? Transition.offsets? transitions with
    | none => rfl
    | some handling => cases handling <;> rfl
  · rw [same]
    exact formatter.same_change_iff transition

/-- The keeping of offsets wanted twice, with a zone before it. -/
theorem changed_canonical_keeping :
    let zone : Transition := .zone (.fixed 1 .largest)
    let years : Transition := .pivotYear 1950
    let formatter := changed { printer? := some ⟨0, [.offset .basic]⟩, parser? := none }
      [zone, .culture .english, .offsetParsed, years, .offsetParsed]
    formatter.printer? = some ⟨0, [.offset .basic]⟩ ∧ formatter.culture = .english ∧
      formatter.pivotYear? = some 1950 ∧
      (formatter.zone?, formatter.keepsParsedOffset) = (none, true) ∧
      (formatter.change .offsetParsed).same formatter = true ∧
      ¬ (formatter.change zone).same formatter = true ∧
      zone.setting ≠ years.setting ∧
      (formatter.change zone).change years = (formatter.change years).change zone := by
  intro zone years formatter
  obtain ⟨same, _, _, printer, _, culture, _, pivotYear, _, offsets, equal, comm, _⟩ :=
    changed_canonical (some ⟨0, [.offset .basic]⟩) none
      [zone, .culture .english, .offsetParsed, years, .offsetParsed]
  have apart : zone.setting ≠ years.setting := by decide
  refine ⟨printer, culture, pivotYear, offsets, (equal _).mpr ?_, mt (equal _).mp ?_, apart,
    comm _ _ apart⟩
  · rw [same]
    rfl
  · rw [same]
    exact nofun

end DateTimeFormatter

end ChronoText
