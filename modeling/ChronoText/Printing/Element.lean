import ChronoText.Printing.Number

/-! Printing of elements: the text of each, the bounds of its length, and the number of fields it
prints, which separators go by. -/

set_option autoImplicit false

namespace ChronoText

namespace Literal

def print (literal : Literal) (context : PrintContext) : List Char :=
  (literal.resolve context.culture).toList

end Literal

namespace NameField

/-- The name of the value, or the value in digits if it has no name. -/
def print (name : NameField) (context : PrintContext) : List Char :=
  match context.fieldValue? name.field with
  | none => []
  | some value =>
    match context.culture.fieldName? name.field value name.width with
    | some text => text.toList
    | none => Text.integer value

def lengthHint (name : NameField) (context : PrintContext) : LengthHint :=
  match context.fieldValue? name.field with
  | none => .exact 0
  | some value =>
    match context.culture.fieldName? name.field value name.width with
    | some text => .exact text.utf8ByteSize
    | none => .exact (Text.digitCount value.natAbs + if value < 0 then 1 else 0)

end NameField

namespace FractionField

/-- The fraction of the second, cut off after the last digit. Without a date-time it is zero. -/
def print (fraction : FractionField) (context : PrintContext) : List Char :=
  let nanoseconds := ((context.fieldValue? .nanoOfSecond).getD 0).natAbs
  Text.padded context.culture.zeroDigit fraction.digits
    (nanoseconds / Nat.pow 10 (9 - fraction.digits))

end FractionField

namespace TwoDigitYear

/-- The last two digits of the year, counted upwards also before the year zero. -/
def print (year : TwoDigitYear) (context : PrintContext) : List Char :=
  let value := (context.fieldValue? year.field).getD 0
  Text.padded context.culture.zeroDigit 2 (value % 100).toNat

end TwoDigitYear

namespace OffsetStyle

def print (style : OffsetStyle) (context : PrintContext) : List Char :=
  match context.offset? with
  | some offset => offset.render style.separator?
  | none => []

def lengthHint (style : OffsetStyle) (context : PrintContext) : LengthHint :=
  match context.offset? with
  | none => .exact 0
  | some offset =>
    let group := 2 + style.separator?.toList.length
    .exact (3 + (if offset.seconds % 60 = 0 then group else 2 * group))

end OffsetStyle

namespace Element

mutual

/-- The number of fields an element prints. -/
def fieldCount (context : PrintContext) : Element → Nat
  | .number field => field.fieldCount context
  | .name _ | .fraction _ | .twoDigitYear _ => 1
  | .offset _ => if context.offset?.isSome then 1 else 0
  | .literal _ | .separator _ => 0
  | .composite elements => fieldCountOf context elements

def fieldCountOf (context : PrintContext) : List Element → Nat
  | [] => 0
  | element :: rest => fieldCount context element + fieldCountOf context rest

end

mutual

/-- The text of an element. A separator has one only among its neighbours. -/
def print (context : PrintContext) : Element → List Char
  | .literal text => text.print context
  | .number field => field.print context
  | .name field => field.print context
  | .fraction field => field.print context
  | .twoDigitYear field => field.print context
  | .offset style => style.print context
  | .separator _ => []
  | .composite elements => printFrom context 0 elements

/-- The text of a sequence of elements, of which `before` fields have been printed since the last
separator. -/
def printFrom (context : PrintContext) (before : Nat) : List Element → List Char
  | [] => []
  | .separator between :: rest =>
    ((between.textBetween? before (fieldCountOf context rest)).getD "").toList
      ++ printFrom context 0 rest
  | element :: rest =>
    print context element ++ printFrom context (before + fieldCount context element) rest

end

mutual

def lengthHint (context : PrintContext) : Element → LengthHint
  | .literal text => .exact (text.resolve context.culture).utf8ByteSize
  | .number field => field.lengthHint context
  | .name field => field.lengthHint context
  | .fraction field => .exact (field.digits * context.culture.zeroDigit.utf8Size)
  | .twoDigitYear _ => .exact (2 * context.culture.zeroDigit.utf8Size)
  | .offset style => style.lengthHint context
  | .separator _ => .exact 0
  | .composite elements => lengthHintFrom context 0 elements

/-- Bounds on the length of the text of a sequence of elements, of which `before` fields have been
printed since the last separator. -/
def lengthHintFrom (context : PrintContext) (before : Nat) : List Element → LengthHint
  | [] => .exact 0
  | .separator between :: rest =>
    let text := (between.textBetween? before (fieldCountOf context rest)).getD ""
    .exact text.utf8ByteSize + lengthHintFrom context 0 rest
  | element :: rest =>
    lengthHint context element
      + lengthHintFrom context (before + fieldCount context element) rest

end

end Element

end ChronoText
