import ChronoText.Parsing.Element
import ChronoText.Text.Blank

/-! Reading of whole texts. A format reads a text if its elements take all of it, but for blank
characters at either end where the styles allow them. -/

set_option autoImplicit false

namespace ChronoText

def startOf (styles : ParseStyles) (text : List Char) : Cursor :=
  let start := Cursor.start text
  if styles.leadingBlank then start.advance (text.takeWhile Text.isBlank).length else start

/-- The components of a whole text, or the failure. The failure says what there was to be read
where the elements give no reason of their own. -/
def parseWhole (elements : List Element) (settings : ParseSettings) (text : List Char)
    (wanted : String) : Except Failure Bucket :=
  if text = [] then throw { kind := .emptyValue, position? := some 0 }
  else
    let start := startOf settings.styles text
    match Element.parse settings start {} (.composite elements) with
    | (.failedAt position, state) =>
      throw (state.failure?.getD
        { kind := .noSuchValue, params := [.text wanted], position? := some position })
    | (.advanced cursor, state) =>
      let left :=
        if settings.styles.trailingBlank then Text.dropBlank cursor.rest else cursor.rest
      if left = [] then pure state.bucket
      else
        throw
          { kind := .textLeftOver
            params := [.text (String.ofList left)]
            position? := some cursor.position }

end ChronoText
