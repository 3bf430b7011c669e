import ChronoText.Field.DateTimeField
import ChronoText.Field.PeriodField

/-! What a number in a format stands for: a component of a date-time or of a period. -/

set_option autoImplicit false

namespace ChronoText

inductive FieldSelector where
  | dateTime (field : DateTimeField)
  | period (field : PeriodField)
  deriving DecidableEq

namespace FieldSelector

def name : FieldSelector → String
  | dateTime field => field.name
  | period field => field.name

/-- Whether a value may carry a sign, which every component of a period may. -/
def isSigned : FieldSelector → Bool
  | dateTime field => field.isSigned
  | period _ => true

def periodField? : FieldSelector → Option PeriodField
  | dateTime _ => none
  | period field => some field

end FieldSelector

end ChronoText
