/-! The components of a period, from years down to milliseconds, and sets of them. -/

set_option autoImplicit false

namespace ChronoText

inductive PeriodField where
  | years
  | months
  | weeks
  | days
  | hours
  | minutes
  | seconds
  | millis
  deriving DecidableEq

namespace PeriodField

/-- All components from the largest unit to the smallest. -/
def all : List PeriodField :=
  [years, months, weeks, days, hours, minutes, seconds, millis]

def index : PeriodField → Nat
  | years => 0
  | months => 1
  | weeks => 2
  | days => 3
  | hours => 4
  | minutes => 5
  | seconds => 6
  | millis => 7

def name : PeriodField → String
  | years => "years"
  | months => "months"
  | weeks => "weeks"
  | days => "days"
  | hours => "hours"
  | minutes => "minutes"
  | seconds => "seconds"
  | millis => "millis"

/-- A component by its name, in the singular or the plural. -/
def ofName? (text : String) : Option PeriodField :=
  match text with
  | "year" | "years" => some years
  | "month" | "months" => some months
  | "week" | "weeks" => some weeks
  | "day" | "days" => some days
  | "hour" | "hours" => some hours
  | "minute" | "minutes" => some minutes
  | "second" | "seconds" => some seconds
  | "milli" | "millis" | "millisecond" | "milliseconds" => some millis
  | _ => none

def isTimeField : PeriodField → Bool
  | hours | minutes | seconds | millis => true
  | years | months | weeks | days => false

/-- The larger units, from the largest on. -/
def larger (field : PeriodField) : List PeriodField :=
  all.take field.index

/-- The smaller units, from the largest on. -/
def smaller (field : PeriodField) : List PeriodField :=
  all.drop (field.index + 1)

theorem mem_all (field : PeriodField) : field ∈ all := by
  cases field <;> decide

theorem index_lt (field : PeriodField) : field.index < 8 := by
  cases field <;> decide

theorem index_inj {first second : PeriodField} (same : first.index = second.index) :
    first = second := by
  cases first <;> cases second <;> simp [index] at same ⊢

end PeriodField

/-- A set of period components, one bit for each in the order of `PeriodField.all`. -/
structure PeriodFieldSet where
  bits : BitVec 8
  deriving DecidableEq

namespace PeriodFieldSet

def empty : PeriodFieldSet := ⟨0⟩

def full : PeriodFieldSet := ⟨255⟩

def singleton (field : PeriodField) : PeriodFieldSet :=
  ⟨BitVec.twoPow 8 field.index⟩

def union (first second : PeriodFieldSet) : PeriodFieldSet :=
  ⟨first.bits ||| second.bits⟩

def has (set : PeriodFieldSet) (field : PeriodField) : Bool :=
  set.bits.getLsbD field.index

def ofList (fields : List PeriodField) : PeriodFieldSet :=
  fields.foldr (fun field set => (singleton field).union set) empty

/-- The components of the set from the largest unit to the smallest. -/
def fields (set : PeriodFieldSet) : List PeriodField :=
  PeriodField.all.filter set.has

@[simp] theorem has_empty (field : PeriodField) : empty.has field = false := by
  cases field <;> rfl

@[simp] theorem has_full (field : PeriodField) : full.has field = true := by
  cases field <;> rfl

@[simp] theorem has_singleton (member field : PeriodField) :
    (singleton member).has field = decide (field = member) := by
  cases member <;> cases field <;> rfl

@[simp] theorem has_union (first second : PeriodFieldSet) (field : PeriodField) :
    (first.union second).has field = (first.has field || second.has field) := by
  simp [has, union]

@[simp] theorem has_ofList (members : List PeriodField) (field : PeriodField) :
    (ofList members).has field = decide (field ∈ members) := by
  induction members with
  | nil => simp [ofList]
  | cons member members ih =>
      simp only [ofList, List.foldr_cons, has_union, has_singleton] at ih ⊢
      simp [ih]

theorem mem_fields {set : PeriodFieldSet} {field : PeriodField} :
    field ∈ set.fields ↔ set.has field = true := by
  simp [fields, PeriodField.mem_all]

end PeriodFieldSet

end ChronoText
