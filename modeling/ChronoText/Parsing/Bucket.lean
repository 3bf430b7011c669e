import ChronoText.Field.DateTimeField
import ChronoText.Temporal.Offset
import ChronoText.Temporal.Period

/-! Buckets: the components and the offset that have been read so far, each at most once. -/

set_option autoImplicit false

namespace ChronoText

structure Bucket where
  fields : DateTimeField → Option Int
  periodFields : PeriodField → Option Int32
  offset? : Option Offset

namespace Bucket

def empty : Bucket := ⟨fun _ => none, fun _ => none, none⟩

def setField (bucket : Bucket) (field : DateTimeField) (value : Int) : Bucket :=
  { bucket with fields := fun other => if other = field then some value else bucket.fields other }

def setPeriodField (bucket : Bucket) (field : PeriodField) (value : Int32) : Bucket :=
  { bucket with
    periodFields := fun other => if other = field then some value else bucket.periodFields other }

def setOffset (bucket : Bucket) (offset : Offset) : Bucket :=
  { bucket with offset? := some offset }

/-- The failure of a unit that a period type does not know. -/
def unsupportedField (field : PeriodField) (type : PeriodType) : Failure :=
  { kind := .fieldNotSupported, params := [.text field.name, .text type.name] }

@[simp] theorem fields_setField (bucket : Bucket) (field other : DateTimeField) (value : Int) :
    (bucket.setField field value).fields other =
      if other = field then some value else bucket.fields other := rfl

@[simp] theorem periodFields_setPeriodField (bucket : Bucket) (field other : PeriodField)
    (value : Int32) :
    (bucket.setPeriodField field value).periodFields other =
      if other = field then some value else bucket.periodFields other := rfl

end Bucket

end ChronoText
