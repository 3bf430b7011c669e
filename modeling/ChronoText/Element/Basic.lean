import ChronoText.Culture
import ChronoText.Element.ZeroPolicy
import ChronoText.Field.Selector

/-! The elements of a format. A format is a sequence of elements: fixed text, numbers, names,
fractions of a second, years of two digits, offsets, separators between units of a period, and
whole formats inside a format. The same elements say how a value is printed and how a text is
read. -/

set_option autoImplicit false

namespace ChronoText

/-- What fixed text stands for. It decides on the text, which for a symbol is that of the culture,
and on the failure when the text is missing. -/
inductive LiteralKind where
  /-- A character of a pattern that is not a letter. -/
  | plain
  /-- A character of a pattern behind an escape character. -/
  | escaped
  /-- A quoted run of a pattern. -/
  | quoted
  /-- Text given as such. -/
  | given
  | timeSeparator
  | dateSeparator
  | decimalSeparator
  deriving DecidableEq

structure Literal where
  kind : LiteralKind
  text : String
  deriving DecidableEq

namespace Literal

def timeSeparator : Literal := ⟨.timeSeparator, ":"⟩

def dateSeparator : Literal := ⟨.dateSeparator, "/"⟩

def decimalSeparator : Literal := ⟨.decimalSeparator, "."⟩

def resolve (literal : Literal) (culture : Culture) : String :=
  match literal.kind with
  | .timeSeparator => culture.timeSeparator
  | .dateSeparator => culture.dateSeparator
  | .decimalSeparator => culture.decimalSeparator
  | .plain | .escaped | .quoted | .given => literal.text

end Literal

/-- Text right before or after a number. -/
inductive Affix where
  | simple (text : String)
  /-- One text for the number one and another for all others. -/
  | plural (one many : String)
  deriving DecidableEq

namespace Affix

def textFor (affix : Affix) (number : Int) : String :=
  match affix with
  | simple text => text
  | plural one many => if number = 1 then one else many

/-- The texts that are accepted, the longer one first. -/
def forms : Affix → List String
  | simple text => [text]
  | plural one many => if many.utf8ByteSize ≤ one.utf8ByteSize then [one, many] else [many, one]

end Affix

/-- A number, printed with at least `minDigits` digits and read with at most `maxParsedDigits`. -/
structure NumberField where
  selector : FieldSelector
  minDigits : Nat
  maxParsedDigits : Nat
  /-- Whether exactly `minDigits` digits are read. -/
  fixedWidth : Bool := false
  zeroPolicy : ZeroPolicy := .always
  /-- The units of a period that have a number in the same format. -/
  present : PeriodFieldSet := .empty
  leading : Option Affix := none
  trailing : Option Affix := none
  /-- Whether a sign is refused. -/
  rejectSigned : Bool := false
  /-- Whether milliseconds follow the seconds as a fraction where there are any. -/
  optionalMillis : Bool := false
  deriving DecidableEq

namespace NumberField

def ofDateTime (field : DateTimeField) (minDigits maxParsedDigits : Nat) : NumberField :=
  { selector := .dateTime field, minDigits, maxParsedDigits := max maxParsedDigits minDigits }

end NumberField

/-- A component of a date-time by its name. -/
structure NameField where
  field : DateTimeField
  width : NameWidth
  deriving DecidableEq

/-- A fraction of a second with one to nine digits. -/
structure FractionField where
  digits : Nat
  deriving DecidableEq

namespace FractionField

/-- The fraction with the number of digits that comes nearest. -/
def ofDigits (digits : Nat) : FractionField :=
  ⟨max 1 (min digits 9)⟩

end FractionField

structure TwoDigitYear where
  field : DateTimeField
  deriving DecidableEq

inductive OffsetStyle where
  /-- The form `+hhmm`, or `+hhmmss`. -/
  | basic
  /-- The form `+hh:mm`, or `+hh:mm:ss`. -/
  | extended
  deriving DecidableEq

namespace OffsetStyle

/-- The character between hours, minutes and seconds. -/
def separator? : OffsetStyle → Option Char
  | basic => none
  | extended => some ':'

end OffsetStyle

/-- Where units have to be printed for a separator to be printed. -/
inductive SeparatorMode where
  | always
  | ifFieldsBefore
  | ifFieldsAfter
  deriving DecidableEq

namespace SeparatorMode

def needsBefore : SeparatorMode → Bool
  | always | ifFieldsBefore => true
  | ifFieldsAfter => false

end SeparatorMode

/-- Text between units of a period. What stands before a separator reaches back to the separator
before it; what stands after it is all that follows. -/
structure Separator where
  text : String
  /-- The text when one unit follows and no more. -/
  finalText : String
  mode : SeparatorMode
  deriving DecidableEq

namespace Separator

/-- The text that is printed between a number of units before and a number of units after. -/
def textBetween? (separator : Separator) (before after : Nat) : Option String :=
  match separator.mode with
  | .always =>
    if before = 0 ∨ after = 0 then none
    else if after = 1 then some separator.finalText
    else some separator.text
  | .ifFieldsBefore => if before = 0 then none else some separator.text
  | .ifFieldsAfter => if after = 0 then none else some separator.text

/-- The texts that are accepted, the longer one first. -/
def forms (separator : Separator) : List String :=
  let ordered :=
    if separator.text.utf8ByteSize < separator.finalText.utf8ByteSize then
      [separator.finalText, separator.text]
    else [separator.text, separator.finalText]
  ordered.filter (· ≠ "")

end Separator

inductive Element where
  | literal (literal : Literal)
  | number (number : NumberField)
  | name (name : NameField)
  | fraction (fraction : FractionField)
  | twoDigitYear (year : TwoDigitYear)
  | offset (style : OffsetStyle)
  | separator (separator : Separator)
  | composite (elements : List Element)

namespace Element

/-- Whether the element starts with digits, so that a number before it needs a fixed width. -/
def isNumeric : Element → Bool
  | .number _ | .fraction _ | .twoDigitYear _ => true
  | .literal _ | .name _ | .offset _ | .separator _ | .composite _ => false

theorem isNumeric_iff {element : Element} :
    element.isNumeric = true ↔
      (∃ number, element = .number number) ∨ (∃ fraction, element = .fraction fraction) ∨
        ∃ year, element = .twoDigitYear year := by
  cases element <;> simp [isNumeric]

mutual

/-- The units of a period that have a number anywhere in the element. -/
def periodFields : Element → PeriodFieldSet
  | .number field =>
    match field.selector with
    | .period unit => .singleton unit
    | .dateTime _ => .empty
  | .composite elements => periodFieldsOf elements
  | .literal _ | .name _ | .fraction _ | .twoDigitYear _ | .offset _ | .separator _ => .empty

def periodFieldsOf : List Element → PeriodFieldSet
  | [] => .empty
  | element :: rest => element.periodFields.union (periodFieldsOf rest)

end

mutual

/-- Whether an offset is printed anywhere in the element. -/
def requiresOffset : Element → Bool
  | .offset _ => true
  | .composite elements => anyRequiresOffset elements
  | .literal _ | .number _ | .name _ | .fraction _ | .twoDigitYear _ | .separator _ => false

def anyRequiresOffset : List Element → Bool
  | [] => false
  | element :: rest => element.requiresOffset || anyRequiresOffset rest

end

end Element

end ChronoText
