import ChronoText.Formatter.DateTime

/-! Builders of date-time formats, which append elements one after another. An operation that is
refused returns an error and no builder, so the builder it was called on stays as it was. -/

set_option autoImplicit false

namespace ChronoText

structure DateTimeBuilder where
  elements : List Element := []

namespace DateTimeBuilder

def append (builder : DateTimeBuilder) (element : Element) : DateTimeBuilder :=
  ⟨builder.elements ++ [element]⟩

/-- A number printed with at least `minDigits` digits, and one in any case, and read with as many
digits as the field can have in the ISO calendar. -/
def appendNumber (builder : DateTimeBuilder) (field : DateTimeField) (minDigits : Nat) :
    DateTimeBuilder :=
  builder.append (.number (.ofDateTime field (max minDigits 1) (Iso.maximumDigits field)))

def appendName (builder : DateTimeBuilder) (field : DateTimeField) (width : NameWidth) :
    DateTimeBuilder :=
  builder.append (.name ⟨field, width⟩)

def appendOffset (builder : DateTimeBuilder) (style : OffsetStyle) : DateTimeBuilder :=
  builder.append (.offset style)

/-! ## Fixed text -/

def appendCharacter (builder : DateTimeBuilder) (c : Char) : DateTimeBuilder :=
  builder.append (.literal ⟨.given, c.toString⟩)

def appendLiteral (builder : DateTimeBuilder) (text : String) :
    Except FormatError DateTimeBuilder :=
  if text = "" then throw (.emptyArgument "text")
  else pure (builder.append (.literal ⟨.given, text⟩))

def appendTimeSeparator (builder : DateTimeBuilder) : DateTimeBuilder :=
  builder.append (.literal .timeSeparator)

def appendDateSeparator (builder : DateTimeBuilder) : DateTimeBuilder :=
  builder.append (.literal .dateSeparator)

def appendDecimalSeparator (builder : DateTimeBuilder) : DateTimeBuilder :=
  builder.append (.literal .decimalSeparator)

/-! ## Fields -/

def appendDecimal (builder : DateTimeBuilder) (field : DateTimeField)
    (minDigits maxDigits : Nat) : Except FormatError DateTimeBuilder :=
  if minDigits = 0 ∨ maxDigits < minDigits then throw Misuse.decimalDigits.error
  else pure (builder.append (.number (.ofDateTime field minDigits maxDigits)))

def appendFixedDecimal (builder : DateTimeBuilder) (field : DateTimeField) (digits : Nat) :
    Except FormatError DateTimeBuilder :=
  if digits = 0 then throw Misuse.fixedDecimalDigits.error
  else
    let number := NumberField.ofDateTime field digits digits
    pure (builder.append (.number { number with fixedWidth := true }))

def appendTwoDigitYear (builder : DateTimeBuilder) (field : DateTimeField) :
    Except FormatError DateTimeBuilder :=
  if field = .year ∨ field = .yearOfEra ∨ field = .weekYear then
    pure (builder.append (.twoDigitYear ⟨field⟩))
  else throw Misuse.notAYear.error

def appendFraction (builder : DateTimeBuilder) (digits : Nat) :
    Except FormatError DateTimeBuilder :=
  if digits < 1 ∨ 9 < digits then throw Misuse.fractionDigits.error
  else pure (builder.append (.fraction (.ofDigits digits)))

/-- The whole format of a formatter, that to print with if it has both. -/
def appendFormatter (builder : DateTimeBuilder) (formatter : DateTimeFormatter) :
    Except FormatError DateTimeBuilder :=
  match formatter.printer?.or formatter.parser? with
  | some tree => pure (builder.append (.composite tree.elements))
  | none => throw Misuse.nothingToAppend.error

def appendPattern (builder : DateTimeBuilder) (culture : Culture) (pattern : String) :
    Except FormatError DateTimeBuilder := do
  let elements ← failureAsError (Pattern.elements culture pattern)
  pure ⟨builder.elements ++ elements⟩

def tree (builder : DateTimeBuilder) (handle : Nat) : FormatTree :=
  ⟨handle, builder.elements⟩

def formatter (builder : DateTimeBuilder) (handle : Nat) : DateTimeFormatter :=
  { printer? := some (builder.tree handle), parser? := some (builder.tree handle) }

end DateTimeBuilder

end ChronoText
