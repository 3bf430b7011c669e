import ChronoText.Formatter.Period

/-! Builders of period formats. The zero policy, the digits and the refusal of signs hold for all
units that are appended later. A leading affix waits for the next unit, and a trailing affix goes
to the last one. An operation that is refused returns an error and no builder, so the builder it
was called on stays as it was. -/

set_option autoImplicit false

namespace ChronoText

structure PeriodBuilder where
  elements : List Element := []
  zeroPolicy : ZeroPolicy := .rarelyLast
  minPrintedDigits : Nat := 1
  maxParsedDigits : Nat := 10
  rejectSigned : Bool := false
  /-- The leading affix of the unit that comes next. -/
  waiting? : Option Affix := none

namespace PeriodBuilder

def append (builder : PeriodBuilder) (element : Element) : PeriodBuilder :=
  { builder with elements := builder.elements ++ [element] }

/-- A text that is given has to be there. -/
def requireText (name text : String) : Except FormatError Unit :=
  if text = "" then throw (.emptyArgument name) else pure ()

def requireNothingWaiting (builder : PeriodBuilder) : Except FormatError Unit :=
  if builder.waiting?.isSome then throw Misuse.prefixWithoutField.error else pure ()

/-! ## Units -/

/-- The number of a unit with the settings of the builder and the affix that waits for it. -/
def number (builder : PeriodBuilder) (unit : PeriodField) : NumberField where
  selector := .period unit
  minDigits := builder.minPrintedDigits
  maxParsedDigits := max builder.maxParsedDigits builder.minPrintedDigits
  zeroPolicy := builder.zeroPolicy
  leading := builder.waiting?
  rejectSigned := builder.rejectSigned

def appendUnit (builder : PeriodBuilder) (unit : PeriodField) : PeriodBuilder :=
  { builder.append (.number (builder.number unit)) with waiting? := none }

/-- The seconds, with the milliseconds as their fraction where there are any. -/
def appendSecondsWithOptionalMillis (builder : PeriodBuilder) : PeriodBuilder :=
  let number := builder.number .seconds
  { builder.append (.number { number with optionalMillis := true }) with waiting? := none }

/-! ## Affixes -/

/-- Lets a leading affix wait for the next unit. Only one can wait, and none behind a literal. -/
def setLeading (builder : PeriodBuilder) (affix : Affix) : Except FormatError PeriodBuilder :=
  if builder.waiting?.isSome then throw Misuse.secondPrefix.error
  else
    match builder.elements.getLast? with
    | some (.literal _) => throw Misuse.prefixAfterLiteral.error
    | _ => pure { builder with waiting? := some affix }

def appendPrefix (builder : PeriodBuilder) (text : String) : Except FormatError PeriodBuilder := do
  requireText "text" text
  builder.setLeading (.simple text)

def appendPluralPrefix (builder : PeriodBuilder) (one many : String) :
    Except FormatError PeriodBuilder := do
  requireText "singular" one
  requireText "plural" many
  builder.setLeading (.plural one many)

def replaceLast (builder : PeriodBuilder) (element : Element) : PeriodBuilder :=
  { builder with elements := builder.elements.dropLast ++ [element] }

/-- Gives a trailing affix to the last element, which has to be a unit without one. -/
def setTrailing (builder : PeriodBuilder) (affix : Affix) : Except FormatError PeriodBuilder := do
  builder.requireNothingWaiting
  match builder.elements.getLast? with
  | some (.number number) =>
    if number.trailing.isSome then throw Misuse.secondSuffix.error
    else pure (builder.replaceLast (.number { number with trailing := some affix }))
  | _ => throw Misuse.suffixWithoutField.error

def appendSuffix (builder : PeriodBuilder) (text : String) : Except FormatError PeriodBuilder := do
  requireText "text" text
  builder.setTrailing (.simple text)

def appendPluralSuffix (builder : PeriodBuilder) (one many : String) :
    Except FormatError PeriodBuilder := do
  requireText "singular" one
  requireText "plural" many
  builder.setTrailing (.plural one many)

/-! ## Text between units -/

def appendLiteral (builder : PeriodBuilder) (text : String) :
    Except FormatError PeriodBuilder := do
  requireText "text" text
  builder.requireNothingWaiting
  pure (builder.append (.literal ⟨.given, text⟩))

/-- Appends a separator, which cannot follow another one. Where nothing comes before it, one that
needs something before it is dropped. -/
def addSeparator (builder : PeriodBuilder) (separator : Separator) :
    Except FormatError PeriodBuilder := do
  requireText "text" separator.text
  builder.requireNothingWaiting
  match builder.elements.getLast? with
  | some (.separator _) => throw Misuse.adjacentSeparators.error
  | none =>
    if separator.mode.needsBefore then pure builder
    else pure (builder.append (.separator separator))
  | some _ => pure (builder.append (.separator separator))

def appendSeparator (builder : PeriodBuilder) (text : String) :
    Except FormatError PeriodBuilder :=
  builder.addSeparator ⟨text, text, .always⟩

def appendSeparatorWithFinal (builder : PeriodBuilder) (text finalText : String) :
    Except FormatError PeriodBuilder := do
  requireText "final_text" finalText
  builder.addSeparator ⟨text, finalText, .always⟩

def appendSeparatorIfFieldsAfter (builder : PeriodBuilder) (text : String) :
    Except FormatError PeriodBuilder :=
  builder.addSeparator ⟨text, text, .ifFieldsAfter⟩

def appendSeparatorIfFieldsBefore (builder : PeriodBuilder) (text : String) :
    Except FormatError PeriodBuilder :=
  builder.addSeparator ⟨text, text, .ifFieldsBefore⟩

def appendFormatter (builder : PeriodBuilder) (formatter : PeriodFormatter) :
    Except FormatError PeriodBuilder := do
  builder.requireNothingWaiting
  match formatter.printer?.or formatter.parser? with
  | some tree => pure (builder.append (.composite tree.elements))
  | none => throw Misuse.nothingToAppend.error

/-! ## Finished formats -/

/-- The units that have a number among the elements, those of appended formatters apart. -/
def units (builder : PeriodBuilder) : List PeriodField :=
  builder.elements.filterMap fun
    | .number number => number.selector.periodField?
    | _ => none

/-- The elements with every unit told which units there are. -/
def finishedElements (builder : PeriodBuilder) : List Element :=
  let present := PeriodFieldSet.ofList builder.units
  builder.elements.map fun
    | .number number =>
      .number (if number.selector.periodField?.isSome then { number with present } else number)
    | element => element

/-- The tree of the elements so far, under a handle. An affix must not be left waiting. -/
def tree (builder : PeriodBuilder) (handle : Nat) : Except FormatError FormatTree := do
  builder.requireNothingWaiting
  pure ⟨handle, builder.finishedElements⟩

def formatter (builder : PeriodBuilder) (handle : Nat) : Except FormatError PeriodFormatter := do
  let tree ← builder.tree handle
  pure { printer? := some tree, parser? := some tree }

def appendUnitWith (builder : PeriodBuilder) (unit : PeriodField) (affix : Affix) :
    PeriodBuilder :=
  builder.append (.number { builder.number unit with trailing := some affix })

end PeriodBuilder

namespace PeriodFormatter

/-- The formatter of a builder on which no affix waits. -/
def ofBuilder (builder : PeriodBuilder) (handle : Nat) : PeriodFormatter :=
  let tree : FormatTree := ⟨handle, builder.finishedElements⟩
  { printer? := some tree, parser? := some tree }

/-- The elements of the ISO form `PnYnMnWnDTnHnMnS`, with the milliseconds as a fraction of the
seconds. -/
def isoBuilder : PeriodBuilder :=
  let builder : PeriodBuilder := {}
  let seconds :=
    { builder.number .seconds with optionalMillis := true, trailing := some (.simple "S") }
  let builder := builder.append (.literal ⟨.given, "P"⟩)
  let builder := builder.appendUnitWith .years (.simple "Y")
  let builder := builder.appendUnitWith .months (.simple "M")
  let builder := builder.appendUnitWith .weeks (.simple "W")
  let builder := builder.appendUnitWith .days (.simple "D")
  let builder := builder.append (.separator ⟨"T", "T", .ifFieldsAfter⟩)
  let builder := builder.appendUnitWith .hours (.simple "H")
  let builder := builder.appendUnitWith .minutes (.simple "M")
  builder.append (.number seconds)

/-- The ISO form of periods. A period that is all zero is `PT0S`. -/
def iso (handle : Nat) : PeriodFormatter :=
  ofBuilder isoBuilder handle

/-- The English word for one of a unit and for any other number of it. -/
def unitWords : List (PeriodField × Affix) :=
  [(.years, .plural " year" " years"), (.months, .plural " month" " months"),
    (.weeks, .plural " week" " weeks"), (.days, .plural " day" " days"),
    (.hours, .plural " hour" " hours"), (.minutes, .plural " minute" " minutes"),
    (.seconds, .plural " second" " seconds"),
    (.millis, .plural " millisecond" " milliseconds")]

/-- Units in words, with commas between them and `and` before the last. -/
def wordsBuilder : PeriodBuilder :=
  unitWords.foldl
    (fun builder (unit, word) =>
      let separated :=
        if builder.elements.isEmpty then builder
        else builder.append (.separator ⟨", ", " and ", .always⟩)
      separated.appendUnitWith unit word)
    {}

/-- The English form of periods, as in `1 day, 2 hours and 30 minutes`. A period that is all zero
is `0 milliseconds`. -/
def words (handle : Nat) : PeriodFormatter :=
  ofBuilder wordsBuilder handle

end PeriodFormatter

end ChronoText
