import ChronoText.Parsing.Element

/-! Reading from any position of a text. Inside a character and behind the end there is nothing to
read, not even an empty text. What may be missing is missing there, and the first element that may
not fails, so the position never changes. -/

set_option autoImplicit false

namespace ChronoText

namespace Literal

/-- The failure of a literal where there is nothing to read, unless it may be missing. -/
def refusal? (literal : Literal) (settings : ParseSettings) : Option Failure :=
  let expected := literal.resolve settings.culture
  if settings.styles.innerBlank && isBlankText expected then none
  else some (literal.mismatch expected)

end Literal

namespace NumberField

/-- The failure of a number where there is nothing to read, unless it may be missing. Inside a
character the leading affix is the first thing that is not there; behind the end it is the number
as a whole. -/
def refusal? (number : NumberField) (place : Cursor.Misplacement) : Option Failure :=
  if number.isRequired then
    match place, number.leading with
    | .insideCharacter, some affix => some (affixMismatch affix)
    | _, _ => some (number.named .numberMismatch)
  else none

end NumberField

namespace Element

mutual

/-- The failure of an element where there is nothing to read, unless it may be missing. -/
def refusal? (settings : ParseSettings) (place : Cursor.Misplacement) :
    Element → Option Failure
  | .literal text => text.refusal? settings
  | .number field => field.refusal? place
  | .name field => some field.mismatch
  | .fraction _ => some FractionField.mismatch
  | .twoDigitYear field => some field.mismatch
  | .offset _ => some { kind := .signMissing }
  | .separator _ => none
  | .composite elements => refusalOf? settings place elements

/-- The failure of the first of a sequence of elements that may not be missing. -/
def refusalOf? (settings : ParseSettings) (place : Cursor.Misplacement) :
    List Element → Option Failure
  | [] => none
  | element :: rest => (refusal? settings place element).or (refusalOf? settings place rest)

end

/-- Reads an element from a position of a text, of which some may be left over. -/
def parseAt (settings : ParseSettings) (text : List Char) (position : Nat) (element : Element) :
    ParseOutcome × ParseState :=
  match Cursor.seek text position with
  | .ok cursor => parse settings cursor {} element
  | .error place =>
    match refusal? settings place element with
    | some failure => ParseState.fail {} ⟨position, failure⟩
    | none => (.advanced ⟨position, []⟩, {})

/-- From a place of the text on, reading goes by what follows. -/
theorem parseAt_append (settings : ParseSettings) (leading rest : List Char)
    (element : Element) :
    parseAt settings (leading ++ rest) (Text.utf8Length leading) element =
      parse settings ⟨Text.utf8Length leading, rest⟩ {} element := by
  rw [parseAt, Cursor.seek_append]

end Element

end ChronoText
