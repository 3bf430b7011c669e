import ChronoText.Failure.Error
import ChronoText.Field.PeriodField

/-! Periods: amounts of the eight calendar units, together with a period type that says which of
the units the period knows. A unit that is not known is not the same as one that is zero, but it
holds zero. -/

set_option autoImplicit false

namespace ChronoText

structure PeriodType where
  name : String
  fields : PeriodFieldSet
  deriving DecidableEq

namespace PeriodType

def supports (type : PeriodType) (field : PeriodField) : Bool :=
  type.fields.has field

/-- All eight units. -/
def standard : PeriodType := ⟨"Standard", .full⟩

instance : Inhabited PeriodType := ⟨standard⟩

def yearMonthDayTime : PeriodType :=
  ⟨"YearMonthDayTime", .ofList [.years, .months, .days, .hours, .minutes, .seconds, .millis]⟩

def yearWeekDayTime : PeriodType :=
  ⟨"YearWeekDayTime", .ofList [.years, .weeks, .days, .hours, .minutes, .seconds, .millis]⟩

def yearDayTime : PeriodType :=
  ⟨"YearDayTime", .ofList [.years, .days, .hours, .minutes, .seconds, .millis]⟩

def dayTime : PeriodType :=
  ⟨"DayTime", .ofList [.days, .hours, .minutes, .seconds, .millis]⟩

def time : PeriodType :=
  ⟨"Time", .ofList [.hours, .minutes, .seconds, .millis]⟩

end PeriodType

structure Period where
  years : Int32
  months : Int32
  weeks : Int32
  days : Int32
  hours : Int32
  minutes : Int32
  seconds : Int32
  millis : Int32
  type : PeriodType
  deriving DecidableEq

namespace Period

def zeroOf (type : PeriodType) : Period :=
  ⟨0, 0, 0, 0, 0, 0, 0, 0, type⟩

def zero : Period := zeroOf .standard

instance : Inhabited Period := ⟨zero⟩

def get (period : Period) : PeriodField → Int32
  | .years => period.years
  | .months => period.months
  | .weeks => period.weeks
  | .days => period.days
  | .hours => period.hours
  | .minutes => period.minutes
  | .seconds => period.seconds
  | .millis => period.millis

/-- The period with one unit replaced, whether its type knows the unit or not. -/
def set (period : Period) (field : PeriodField) (value : Int32) : Period :=
  match field with
  | .years => { period with years := value }
  | .months => { period with months := value }
  | .weeks => { period with weeks := value }
  | .days => { period with days := value }
  | .hours => { period with hours := value }
  | .minutes => { period with minutes := value }
  | .seconds => { period with seconds := value }
  | .millis => { period with millis := value }

def of (field : PeriodField) (value : Int32) : Period :=
  zero.set field value

def isZero (period : Period) : Bool :=
  PeriodField.all.all fun field => period.get field == 0

/-- The period with one unit replaced. A unit its type does not know can only become zero. -/
def withField (period : Period) (field : PeriodField) (value : Int32) :
    Except FormatError Period :=
  if value ≠ 0 ∧ period.type.supports field = false then
    throw (Misuse.fieldNotSupported period.type.name field.name).error
  else
    pure (period.set field value)

/-- The first unit that is not zero and that a period type does not know. -/
def unsupported? (period : Period) (type : PeriodType) : Option PeriodField :=
  PeriodField.all.find? fun field => period.get field != 0 && !type.supports field

/-- The same amounts as a period of another type, which has to know all units that are not
zero. -/
def withType (period : Period) (type : PeriodType) : Except FormatError Period :=
  match period.unsupported? type with
  | some field => throw (Misuse.fieldNotSupported type.name field.name).error
  | none => pure { period with type }

@[simp] theorem get_set_self (period : Period) (field : PeriodField) (value : Int32) :
    (period.set field value).get field = value := by
  cases field <;> rfl

@[simp] theorem get_set_of_ne (period : Period) {field other : PeriodField}
    (different : other ≠ field) (value : Int32) :
    (period.set field value).get other = period.get other := by
  revert different
  cases field <;> cases other <;> simp [get, set]

@[simp] theorem type_set (period : Period) (field : PeriodField) (value : Int32) :
    (period.set field value).type = period.type := by
  cases field <;> rfl

@[simp] theorem get_zeroOf (type : PeriodType) (field : PeriodField) :
    (zeroOf type).get field = 0 := by
  cases field <;> rfl

/-- Two periods of one type with the same amounts are the same. -/
theorem ext_get {first second : Period} (amounts : ∀ field, first.get field = second.get field)
    (types : first.type = second.type) : first = second := by
  cases first
  cases second
  simp only [mk.injEq]
  exact ⟨amounts .years, amounts .months, amounts .weeks, amounts .days, amounts .hours,
    amounts .minutes, amounts .seconds, amounts .millis, types⟩

end Period

end ChronoText
