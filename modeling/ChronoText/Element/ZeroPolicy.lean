import ChronoText.Temporal.Period

/-! When a unit of a period that is zero is printed. -/

set_option autoImplicit false

namespace ChronoText

inductive ZeroPolicy where
  /-- Print every unit, also one that the type of the period does not know. -/
  | always
  /-- Print no zero. -/
  | never
  /-- Print a zero only for the largest unit of a period that is all zero. -/
  | rarelyFirst
  /-- Print a zero only for the smallest unit of a period that is all zero. -/
  | rarelyLast
  /-- Print every unit that the type of the period knows. -/
  | ifSupported
  deriving DecidableEq

namespace ZeroPolicy

instance : Inhabited ZeroPolicy := ⟨rarelyLast⟩

def name : ZeroPolicy → String
  | always => "always"
  | never => "never"
  | rarelyFirst => "rarelyFirst"
  | rarelyLast => "rarelyLast"
  | ifSupported => "ifSupported"

def ofName? (text : String) : Option ZeroPolicy :=
  match text with
  | "always" => some always
  | "never" => some never
  | "rarelyFirst" => some rarelyFirst
  | "rarelyLast" => some rarelyLast
  | "ifSupported" => some ifSupported
  | _ => none

/-- Whether a unit of a period is printed. The units in `present` are those of the same format;
of them the smallest or the largest that the period knows stands for a period that is all zero. -/
def prints (policy : ZeroPolicy) (field : PeriodField) (period : Period)
    (present : PeriodFieldSet) : Bool :=
  let rival (other : PeriodField) : Bool := period.type.supports other && present.has other
  match policy with
  | always => true
  | never => period.type.supports field && period.get field != 0
  | ifSupported => period.type.supports field
  | rarelyLast =>
    period.type.supports field
      && (period.get field != 0 || period.isZero && !field.smaller.any rival)
  | rarelyFirst =>
    period.type.supports field
      && (period.get field != 0 || period.isZero && !field.larger.any rival)

end ZeroPolicy

end ChronoText
