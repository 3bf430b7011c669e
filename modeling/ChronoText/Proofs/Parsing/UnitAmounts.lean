import ChronoText.Formatter.Period
import ChronoText.Proofs.Parsing.Resolution
import ChronoText.Proofs.Parsing.Units

/-! The amounts of a period that are read back. What a unit prints is the amount of the unit, and a
unit that is not printed is zero, so the bucket holds the amounts of the period again. -/

set_option autoImplicit false

namespace ChronoText

theorem PeriodField.exists_smallest {property : PeriodField → Bool} {field : PeriodField}
    (holds : property field = true) :
    ∃ smallest, property smallest = true ∧ smallest.smaller.any property = false := by
  cases last : field.smaller.any property with
  | false => exact ⟨field, holds, last⟩
  | true =>
      obtain ⟨other, member, otherHolds⟩ := List.any_eq_true.mp last
      have later : field.index < other.index := by
        revert member
        cases field <;> cases other <;> decide
      have bound := other.index_lt
      exact exists_smallest otherHolds
termination_by 8 - field.index

/-- The type of the period knows all units that are not zero. -/
def Period.KnowsUnits (period : Period) : Prop :=
  ∀ field, period.get field ≠ 0 → period.type.supports field = true

theorem Period.supports_of_standard {period : Period} (standard : period.type = .standard)
    (field : PeriodField) : period.type.supports field = true := by
  rw [standard]
  cases field <;> rfl

/-- The amount of a unit that was read, zero if it was not. -/
def Bucket.amount (bucket : Bucket) (field : PeriodField) : Int32 :=
  (bucket.periodFields field).getD 0

namespace PrintedNumber

theorem value_ofInt (value : Int) : (ofInt value).value = value := by
  simp only [PrintedNumber.value, ofInt, decide_eq_true_eq]
  split <;> omega

theorem natAbs_toInt_le (amount : Int32) : amount.toInt.natAbs ≤ 2 ^ 31 := by
  have least := amount.le_toInt
  have greatest := amount.toInt_lt
  omega

theorem isReadable_ofInt (amount : Int32) (optionalMillis : Bool) :
    (ofInt amount.toInt).IsReadable optionalMillis where
  whole := by
    have small := natAbs_toInt_le amount
    simp only [ofInt]
    omega
  millis := fun _ absurd => nomatch absurd
  allowed := fun absurd => nomatch absurd

theorem isReadable_ofMillis {total : Int} (small : total.natAbs < 10 ^ 13) :
    (ofMillis total).IsReadable true where
  whole := by
    simp only [ofMillis]
    omega
  millis := by
    intro millis member
    simp only [ofMillis] at member
    split at member
    · cases member
    · cases member
      omega
  allowed := fun _ => rfl

end PrintedNumber

namespace NumberField

variable {unit : PeriodField} {present : PeriodFieldSet} {affix : Affix} {period : Period}

theorem printed?_ofUnit (unit : PeriodField) (present : PeriodFieldSet) (affix : Affix)
    (period : Period) :
    (ofUnit unit present affix false).printed? period.printContext =
      if ZeroPolicy.rarelyLast.prints unit period present then
        some (.ofInt (period.get unit).toInt) else none := rfl

theorem supports_of_prints (prints : ZeroPolicy.rarelyLast.prints unit period present = true) :
    period.type.supports unit = true := by
  simp only [ZeroPolicy.prints, Bool.and_eq_true] at prints
  exact prints.1

theorem get_eq_zero_of_not_prints (known : period.KnowsUnits)
    (hidden : ¬ ZeroPolicy.rarelyLast.prints unit period present = true) :
    period.get unit = 0 := by
  by_contra other
  apply hidden
  simp only [ZeroPolicy.prints, known unit other, Bool.true_and, Bool.or_eq_true, bne_iff_ne]
  exact .inl other

/-- Some unit of a format is printed, if all units that are not zero are among those of the format
and the type knows one of them. -/
theorem exists_prints (known : period.KnowsUnits)
    (absent : ∀ field, present.has field = false → period.get field = 0) {field : PeriodField}
    (supported : period.type.supports field = true) (member : present.has field = true) :
    ∃ unit, present.has unit = true ∧
      ZeroPolicy.rarelyLast.prints unit period present = true := by
  by_cases zero : period.isZero = true
  · have rival : (period.type.supports field && present.has field) = true := by
      rw [supported, member]
      rfl
    obtain ⟨smallest, own, alone⟩ := @PeriodField.exists_smallest
      (fun other => period.type.supports other && present.has other) field rival
    obtain ⟨ownSupported, ownMember⟩ := Bool.and_eq_true_iff.mp own
    refine ⟨smallest, ownMember, ?_⟩
    simp only [ZeroPolicy.prints, ownSupported, zero, alone, Bool.not_false, Bool.and_self,
      Bool.or_true]
  · obtain ⟨unit, _, other⟩ := by
      simpa only [Period.isZero, List.all_eq_true, not_forall, beq_iff_eq] using zero
    refine ⟨unit, Bool.not_eq_false _ ▸ mt (absent unit) other, ?_⟩
    simp only [ZeroPolicy.prints, known unit other, Bool.true_and, Bool.or_eq_true, bne_iff_ne]
    exact .inl other

theorem exists_mem_prints {fields : List PeriodField} (known : period.KnowsUnits)
    (absent : ∀ field, field ∉ fields → period.get field = 0) {field : PeriodField}
    (supported : period.type.supports field = true) (member : field ∈ fields) :
    ∃ unit ∈ fields, ZeroPolicy.rarelyLast.prints unit period (.ofList fields) = true := by
  have has_iff (field : PeriodField) :
      (PeriodFieldSet.ofList fields).has field = true ↔ field ∈ fields := by
    rw [PeriodFieldSet.has_ofList, decide_eq_true_eq]
  have missing (field : PeriodField) (unknown : (PeriodFieldSet.ofList fields).has field = false) :
      period.get field = 0 := by
    refine absent field fun fieldMember => ?_
    rw [(has_iff field).mpr fieldMember] at unknown
    cases unknown
  obtain ⟨unit, unitMember, prints⟩ :=
    exists_prints known missing supported ((has_iff field).mpr member)
  exact ⟨unit, (has_iff unit).mp unitMember, prints⟩

theorem print_ofUnit_ne_nil (affix : Affix)
    (prints : ZeroPolicy.rarelyLast.prints unit period present = true) :
    Element.print period.printContext (.number (ofUnit unit present affix false)) ≠ [] := by
  rw [Element.print_ofUnit, printed?_ofUnit, if_pos prints]
  exact List.append_ne_nil_of_left_ne_nil (PrintedNumber.text_ne_nil _) _

/-- A unit without milliseconds reads back in front of a text that ends its affix, where it was
printed, and in front of a text that shows it missing, where it was not. -/
theorem readsBack_amount {settings : ParseSettings} (culture : settings.culture = .invariant)
    (type : settings.periodType = period.type) (clear : affix.startsNoNumber = true)
    {rest : List Char}
    (before : ZeroPolicy.rarelyLast.prints unit period present = true → affix.ReadsBefore rest)
    (missing : ¬ ZeroPolicy.rarelyLast.prints unit period present = true →
      affix.distance? rest = none) :
    Element.ReadsBack settings period.printContext rest (.number (ofUnit unit present affix false))
      ((ofUnit unit present affix false).recordUnit unit period) := by
  refine readsBack_ofUnit culture clear ?there ?absent
  case there =>
    intro printed shown
    rw [printed?_ofUnit] at shown
    split at shown
    · next prints =>
        cases shown
        have readable := PrintedNumber.isReadable_ofInt (period.get unit) false
        have value := PrintedNumber.value_ofInt (period.get unit).toInt
        have least := (period.get unit).le_toInt
        have greatest := (period.get unit).toInt_lt
        refine ⟨readable, before prints, store_ofUnit readable ?_ ?_ ?_⟩
        · rw [value]
          exact ⟨least, greatest⟩
        · rw [type]
          exact fun _ => supports_of_prints prints
        · exact fun _ absurd => nomatch absurd
    · cases shown
  case absent =>
    intro hidden
    rw [printed?_ofUnit] at hidden
    split at hidden
    · cases hidden
    · next prints => exact missing prints

/-- A bucket in which a unit is not yet read holds its amount afterwards, and all other amounts as
before. -/
theorem amount_recordUnit (known : period.KnowsUnits) {bucket : Bucket}
    (unread : bucket.periodFields unit = none) (field : PeriodField) :
    ((ofUnit unit present affix false).recordUnit unit period bucket).amount field =
      if field = unit then period.get unit else bucket.amount field := by
  unfold recordUnit Bucket.amount
  rw [printed?_ofUnit]
  split
  · next printed shown =>
      split at shown
      · cases shown
        have value := PrintedNumber.value_ofInt (period.get unit).toInt
        have stored : putUnit unit (.ofInt (period.get unit).toInt) bucket =
            bucket.setPeriodField unit (period.get unit) := by
          have amount := Int32.ofInt_toInt (period.get unit)
          rw [← value] at amount
          simp only [putUnit, PrintedNumber.ofInt] at amount ⊢
          rw [amount]
        rw [stored, Bucket.periodFields_setPeriodField]
        split <;> rfl
      · cases shown
  · next hidden =>
      split at hidden
      · cases hidden
      · next prints =>
          split
          · next same =>
              rw [same, unread, get_eq_zero_of_not_prints known prints]
              rfl
          · rfl

theorem periodFields_recordUnit_of_ne (bucket : Bucket) {field : PeriodField}
    (other : field ≠ unit) :
    ((ofUnit unit present affix false).recordUnit unit period bucket).periodFields field =
      bucket.periodFields field := by
  unfold recordUnit
  rw [printed?_ofUnit]
  split
  · next printed shown =>
      split at shown
      · cases shown
        exact if_neg other
      · cases shown
  · rfl

def recordUnits (present : PeriodFieldSet) (period : Period) (units : List (PeriodField × Affix))
    (bucket : Bucket) : Bucket :=
  units.foldl
    (fun bucket entry =>
      (ofUnit entry.1 present entry.2 false).recordUnit entry.1 period bucket)
    bucket

theorem recordUnits_cons (present : PeriodFieldSet) (period : Period) (entry : PeriodField × Affix)
    (units : List (PeriodField × Affix)) :
    recordUnits present period (entry :: units) =
      recordUnits present period units ∘
        (ofUnit entry.1 present entry.2 false).recordUnit entry.1 period := rfl

theorem periodFields_recordUnits_of_not_mem {units : List (PeriodField × Affix)} (bucket : Bucket)
    {field : PeriodField} (other : field ∉ units.map (·.1)) :
    (recordUnits present period units bucket).periodFields field = bucket.periodFields field := by
  induction units generalizing bucket with
  | nil => rfl
  | cons entry units ih =>
      rw [List.map_cons, List.mem_cons, not_or] at other
      exact (ih _ other.2).trans (periodFields_recordUnit_of_ne bucket other.1)

theorem amount_recordUnits (known : period.KnowsUnits) {units : List (PeriodField × Affix)}
    (different : (units.map (·.1)).Nodup) {bucket : Bucket}
    (unread : ∀ field ∈ units.map (·.1), bucket.periodFields field = none) (field : PeriodField) :
    (recordUnits present period units bucket).amount field =
      if field ∈ units.map (·.1) then period.get field else bucket.amount field := by
  induction units generalizing bucket with
  | nil => rfl
  | cons entry units ih =>
      obtain ⟨notAgain, others⟩ := List.nodup_cons.mp different
      obtain ⟨ownUnread, othersUnread⟩ := List.forall_mem_cons.mp unread
      have stillUnread : ∀ field ∈ units.map (·.1),
          ((ofUnit entry.1 present entry.2 false).recordUnit entry.1 period
            bucket).periodFields field = none := by
        intro field member
        rw [periodFields_recordUnit_of_ne bucket (ne_of_mem_of_not_mem member notAgain)]
        exact othersUnread field member
      refine (ih others stillUnread).trans ?_
      rw [amount_recordUnit known ownUnread, List.map_cons]
      by_cases own : field = entry.1
      · simp only [own, notAgain, if_false, if_true, List.mem_cons_self]
      · simp only [own, if_false, List.mem_cons, false_or]

/-- Units make the period of which they were printed, if all others of it are zero. -/
theorem toPeriod_recordUnits (known : period.KnowsUnits) {units : List (PeriodField × Affix)}
    (different : (units.map (·.1)).Nodup)
    (absent : ∀ field, field ∉ units.map (·.1) → period.get field = 0) :
    (recordUnits present period units .empty).toPeriod period.type = .ok period := by
  rw [Bucket.toPeriod_eq_ok_iff]
  refine ⟨rfl, fun field => ?_, known⟩
  have amount : (recordUnits present period units .empty).amount field = _ :=
    amount_recordUnits known different (fun _ _ => rfl) field
  refine Eq.trans ?_ amount.symm
  split
  · rfl
  · next missing => exact absent field missing

end NumberField

namespace PeriodFormatter

variable {formatter : PeriodFormatter} {tree : FormatTree}

theorem parse_eq_ok_iff (parser : formatter.parser? = some tree) {text : String} {period : Period} :
    formatter.parse text = .ok period ↔
      ∃ bucket, parseWhole tree.elements formatter.parseSettings text.toList "Period" = .ok bucket ∧
        bucket.toPeriod formatter.parseType = .ok period := by
  rw [parse_of_tree parser]
  cases parseWhole tree.elements formatter.parseSettings text.toList "Period" with
  | error failure => simp [Except.bind, Except.mapError]
  | ok bucket =>
      cases made : bucket.toPeriod formatter.parseType <;>
        simp [Except.bind, Except.mapError, made]

/-- A formatter reads back what is legible of a period and makes up the amounts of another. -/
theorem parse_of_legible (parser : formatter.parser? = some tree) {period result : Period}
    {effect : Bucket → Bucket}
    (legible : Legible formatter.parseSettings period.printContext [] 0 false tree.elements effect)
    (some : Element.print period.printContext (.composite tree.elements) ≠ [])
    (amounts : (effect .empty).toPeriod formatter.parseType = .ok result) :
    formatter.parse (.ofList (tree.print period.printContext)) = .ok result := by
  refine (parse_eq_ok_iff parser).mpr ⟨_, ?_, amounts⟩
  rw [String.toList_ofList]
  exact legible.parseWhole_print rfl some "Period"

end PeriodFormatter

end ChronoText
