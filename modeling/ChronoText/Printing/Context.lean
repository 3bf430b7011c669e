import ChronoText.Culture
import ChronoText.Temporal.Calendar
import ChronoText.Temporal.Offset
import ChronoText.Temporal.Period

/-! What a format is printed with: a culture and the value that the elements take their numbers
from. -/

set_option autoImplicit false

namespace ChronoText

inductive PrintSource where
  | dateTime (value : LocalDateTime) (offset? : Option Offset) (calendar : Calendar)
  | period (period : Period)

structure PrintContext where
  culture : Culture
  source : PrintSource

namespace PrintContext

/-- The number of a component of the date-time, if one is printed. -/
def fieldValue? (context : PrintContext) (field : DateTimeField) : Option Int :=
  match context.source with
  | .dateTime value _ calendar => some (calendar.fieldValue value field)
  | .period _ => none

/-- The most digits that the calendar gives a component of the date-time. -/
def maximumDigits (context : PrintContext) (field : DateTimeField) : Nat :=
  match context.source with
  | .dateTime _ _ calendar => calendar.maximumDigits field
  | .period _ => 0

def period? (context : PrintContext) : Option Period :=
  match context.source with
  | .dateTime _ _ _ => none
  | .period period => some period

def offset? (context : PrintContext) : Option Offset :=
  match context.source with
  | .dateTime _ offset? _ => offset?
  | .period _ => none

end PrintContext

end ChronoText
