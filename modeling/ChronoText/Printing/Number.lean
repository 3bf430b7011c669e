import ChronoText.Element.Basic
import ChronoText.Printing.Context
import ChronoText.Text.Digits
import ChronoText.Text.Length

/-! Printing of numbers. A component of a date-time is always printed; a unit of a period is
printed where the zero policy says so. Seconds with milliseconds print as one decimal number, whose
sign is that of the sum. -/

set_option autoImplicit false

namespace ChronoText

structure PrintedNumber where
  negative : Bool
  whole : Nat
  /-- Thousandths after the whole number, unless they are zero. -/
  millis? : Option Nat
  deriving DecidableEq

namespace PrintedNumber

def ofInt (value : Int) : PrintedNumber :=
  ⟨decide (value < 0), value.natAbs, none⟩

/-- The number of seconds that an amount of milliseconds makes. -/
def ofMillis (total : Int) : PrintedNumber where
  negative := decide (total < 0)
  whole := total.natAbs / 1000
  millis? := if total.natAbs % 1000 = 0 then none else some (total.natAbs % 1000)

/-- The number that the form of an affix goes by; with a fraction it is never one. -/
def affixNumber (printed : PrintedNumber) : Int :=
  if printed.millis?.isSome then 0
  else if printed.negative then -printed.whole
  else printed.whole

end PrintedNumber

namespace NumberField

/-- The number a unit of a period prints as, if it prints. -/
def printedUnit? (number : NumberField) (unit : PeriodField) (period : Period) :
    Option PrintedNumber :=
  if number.optionalMillis && period.millis != 0 then
    if number.zeroPolicy = .always || period.type.supports .seconds
        || period.type.supports .millis then
      some (.ofMillis (period.seconds.toInt * 1000 + period.millis.toInt))
    else none
  else if number.zeroPolicy.prints unit period number.present then
    some (.ofInt (period.get unit).toInt)
  else none

def printed? (number : NumberField) (context : PrintContext) : Option PrintedNumber :=
  match number.selector with
  | .dateTime field => (context.fieldValue? field).map .ofInt
  | .period unit => context.period?.bind (number.printedUnit? unit)

/-- The text of an affix next to a number; nothing without an affix. -/
def affixText (affix? : Option Affix) (printed : PrintedNumber) : List Char :=
  match affix? with
  | some affix => (affix.textFor printed.affixNumber).toList
  | none => []

/-- The text of a number: affix, sign, digits, fraction and affix. -/
def render (number : NumberField) (culture : Culture) (printed : PrintedNumber) : List Char :=
  affixText number.leading printed
    ++ (if printed.negative then culture.negativeSign.toList else [])
    ++ Text.padded culture.zeroDigit number.minDigits printed.whole
    ++ (match printed.millis? with
      | some millis => culture.decimalSeparator.toList ++ Text.padded culture.zeroDigit 3 millis
      | none => [])
    ++ affixText number.trailing printed

def print (number : NumberField) (context : PrintContext) : List Char :=
  match number.printed? context with
  | some printed => number.render context.culture printed
  | none => []

/-- The length of the text of a number, with every digit taken to be as long as zero. -/
def renderedLength (number : NumberField) (culture : Culture) (printed : PrintedNumber) : Nat :=
  let digitLength := culture.zeroDigit.utf8Size
  max (Text.digitCount printed.whole) number.minDigits * digitLength
    + (if printed.negative then culture.negativeSign.utf8ByteSize else 0)
    + (if printed.millis?.isSome then
        culture.decimalSeparator.utf8ByteSize + 3 * digitLength else 0)
    + Text.utf8Length (affixText number.leading printed)
    + Text.utf8Length (affixText number.trailing printed)

/-- The length of a component of a date-time is estimated from the digits it can have; that of a
unit of a period is known. -/
def lengthHint (number : NumberField) (context : PrintContext) : LengthHint :=
  match number.printed? context with
  | none => .exact 0
  | some printed =>
    let length := number.renderedLength context.culture printed
    match number.selector with
    | .period _ => .exact length
    | .dateTime field =>
      let digits := max number.minDigits (context.maximumDigits field)
      let sign := if field.isSigned then context.culture.negativeSign.utf8ByteSize else 0
      .between length (max (digits * context.culture.zeroDigit.utf8Size + sign) length)

def fieldCount (number : NumberField) (context : PrintContext) : Nat :=
  if (number.printed? context).isSome then 1 else 0

end NumberField

end ChronoText
