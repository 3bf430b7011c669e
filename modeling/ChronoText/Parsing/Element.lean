import ChronoText.Parsing.Number
import ChronoText.Text.Blank

/-! Reading of elements. Elements are read one after another, and the first that fails ends the
reading. Whether the separators between units were rightly read or missing is only known once all
that follows has been read, so they are checked at the end, the last one first. -/

set_option autoImplicit false

namespace ChronoText

namespace Literal

def isBlankText (text : String) : Bool :=
  text ≠ "" && text.toList.all Text.isBlank

/-- The failure when the text of the literal is missing. -/
def mismatch (literal : Literal) (expected : String) : Failure :=
  if isBlankText expected then { kind := .spaceMismatch }
  else
    let kind : FailureKind :=
      match literal.kind with
      | .timeSeparator => .timeSeparatorMismatch
      | .dateSeparator => .dateSeparatorMismatch
      | .decimalSeparator => .decimalSeparatorMissing
      | .escaped => .escapedMismatch
      | .quoted => .quotedMismatch
      | .plain | .given =>
        if expected.toList.length = 1 then .characterMismatch else .quotedMismatch
    { kind, params := [.text expected] }

def read (literal : Literal) (settings : ParseSettings) (cursor : Cursor) :
    Except Fault Cursor :=
  let expected := literal.resolve settings.culture
  if settings.styles.innerBlank && isBlankText expected then
    pure (cursor.advance (cursor.rest.takeWhile Text.isBlank).length)
  else
    match cursor.skip? expected with
    | some behind => pure behind
    | none => throw ⟨cursor.position, literal.mismatch expected⟩

end Literal

namespace NameField

/-- The names of all values of the field, each with its value: from the least value on, the long
name before the short one. -/
def candidates (culture : Culture) (field : DateTimeField) : List (Int × String) :=
  (culture.valueNames field .long).flatMap fun (value, name) =>
    (value, name) :: ((culture.fieldName? field value .short).map (value, ·)).toList

/-- The candidate with the longest name, of several the first. -/
def longest? (candidates : List (Int × String)) : Option (Int × String) :=
  candidates.foldl
    (fun best? candidate =>
      match best? with
      | none => some candidate
      | some best =>
        if best.2.toList.length < candidate.2.toList.length then some candidate else some best)
    none

/-- The failure when no name follows. -/
def mismatch (name : NameField) : Failure :=
  { kind := .nameMismatch, params := [.text name.field.name] }

/-- Takes the longest name of any value that follows. -/
def read (name : NameField) (settings : ParseSettings) (cursor : Cursor) (bucket : Bucket) :
    Except Fault (Cursor × Bucket) :=
  let following := (candidates settings.culture name.field).filter fun candidate =>
    candidate.2 ≠ "" && Text.startsWithCaseless candidate.2.toList cursor.rest
  match longest? following with
  | some (value, text) =>
    pure (cursor.advance text.toList.length, bucket.setField name.field value)
  | none => throw ⟨cursor.position, name.mismatch⟩

end NameField

namespace FractionField

/-- The failure when no digit follows. -/
def mismatch : Failure :=
  { kind := .numberMismatch, params := [.text DateTimeField.nanoOfSecond.name] }

/-- Takes one digit at least. Digits that are not there count as zeros on the right. -/
def read (fraction : FractionField) (settings : ParseSettings) (cursor : Cursor)
    (bucket : Bucket) : Except Fault (Cursor × Bucket) :=
  let digits :=
    Text.leadingDigits settings.culture.zeroDigit (cursor.rest.take fraction.digits)
  if digits = [] then throw ⟨cursor.position, mismatch⟩
  else
    let nanoseconds : Nat := digits.foldl (10 * · + ·) 0 * Nat.pow 10 (9 - digits.length)
    pure (cursor.advance digits.length, bucket.setField .nanoOfSecond nanoseconds)

end FractionField

namespace TwoDigitYear

/-- The year that ends in two digits and lies in the hundred years that start fifty years before
the pivot. -/
def resolve (lastDigits pivotYear : Int) : Int :=
  let first := pivotYear - 50
  let year := first - first % 100 + lastDigits
  if year < first then year + 100 else year

/-- The failure when fewer than two digits follow. -/
def mismatch (year : TwoDigitYear) : Failure :=
  { kind := .numberMismatch, params := [.text year.field.name] }

def read (year : TwoDigitYear) (settings : ParseSettings) (cursor : Cursor) (bucket : Bucket) :
    Except Fault (Cursor × Bucket) :=
  match Text.leadingDigits settings.culture.zeroDigit (cursor.rest.take 2) with
  | [tens, ones] =>
    let value := resolve (10 * tens + ones : Nat) settings.pivotYear
    pure (cursor.advance 2, bucket.setField year.field value)
  | _ => throw ⟨cursor.position, year.mismatch⟩

end TwoDigitYear

namespace OffsetStyle

/-- The number that two ASCII digits make, if two follow. -/
def twoDigits? : List Char → Option Nat
  | tens :: ones :: _ =>
    if tens.isDigit && ones.isDigit then
      some (10 * (tens.toNat - '0'.toNat) + (ones.toNat - '0'.toNat))
    else none
  | _ => none

def twoDigits (cursor : Cursor) : Except Fault (Nat × Cursor) :=
  match twoDigits? cursor.rest with
  | some value => pure (value, cursor.advance 2)
  | none => throw ⟨cursor.position, { kind := .numberMismatch, params := [.text "offset"] }⟩

def skipSeparator (style : OffsetStyle) (cursor : Cursor) : Except Fault Cursor :=
  match style.separator? with
  | none => pure cursor
  | some separator =>
    if cursor.rest.head? = some separator then pure (cursor.advance 1)
    else
      throw ⟨cursor.position,
        { kind := .timeSeparatorMismatch, params := [.character separator] }⟩

/-- The seconds behind a separator, if both follow; otherwise none, and the cursor stays. -/
def optionalSeconds (style : OffsetStyle) (cursor : Cursor) : Nat × Cursor :=
  match style.skipSeparator cursor with
  | .error _ => (0, cursor)
  | .ok behind =>
    match twoDigits? behind.rest with
    | some seconds => (seconds, behind.advance 2)
    | none => (0, cursor)

/-- Takes the parts behind a sign that stands at `start`. -/
def readParts (style : OffsetStyle) (sign : Sign) (start : Cursor) :
    Except Fault (Offset × Cursor) := do
  let (hours, cursor) ← twoDigits (start.advance 1)
  let (minutes, cursor) ← twoDigits (← style.skipSeparator cursor)
  let (seconds, cursor) := style.optionalSeconds cursor
  match Offset.ofComponents sign hours minutes seconds with
  | .ok offset => pure (offset, cursor)
  | .error _ =>
    throw ⟨start.position,
      { kind := .valueOutOfRange
        params := [.integer (hours * 100 + minutes : Nat), .text "offset"] }⟩

/-- Takes the letter Z, which stands for no offset, or a sign and the parts. -/
def readOffset (style : OffsetStyle) (cursor : Cursor) : Except Fault (Offset × Cursor) :=
  match cursor.rest.head? with
  | some 'Z' | some 'z' => pure (.utc, cursor.advance 1)
  | some '+' => style.readParts .positive cursor
  | some '-' => style.readParts .negative cursor
  | _ => throw ⟨cursor.position, { kind := .signMissing }⟩

def read (style : OffsetStyle) (cursor : Cursor) (bucket : Bucket) :
    Except Fault (Cursor × Bucket) := do
  let (offset, behind) ← style.readOffset cursor
  pure (behind, bucket.setOffset offset)

end OffsetStyle

namespace Separator

def skip? (separator : Separator) (cursor : Cursor) : Option Cursor :=
  separator.forms.findSome? cursor.skip?

end Separator

/-- A separator that was passed, to be checked when all that follows has been read. -/
structure PassedSeparator where
  separator : Separator
  found : Bool
  /-- The position behind the separator, or where it is missing. -/
  position : Nat

namespace PassedSeparator

/-- A separator that was found has something after it. One that is printed whatever stands before
it is not missing where something follows. -/
def fault? (passed : PassedSeparator) (finish : Nat) : Option Fault :=
  let fault (kind : FailureKind) : Fault :=
    ⟨passed.position, { kind, params := [.text passed.separator.text] }⟩
  if passed.found && finish = passed.position then some (fault .fieldMissing)
  else if !passed.found && !passed.separator.mode.needsBefore && passed.position < finish then
    some (fault .separatorMissing)
  else none

end PassedSeparator

namespace Element

/-- Ends a sequence of elements at a cursor, unless one of the separators is at fault. -/
def finish (passed : List PassedSeparator) (cursor : Cursor) (state : ParseState) :
    ParseOutcome × ParseState :=
  match passed.findSome? (·.fault? cursor.position) with
  | some fault => state.fail fault
  | none => (.advanced cursor, state)

/-- Passes a separator. One that needs something before it is only looked for where something was
read since the last separator, which ended at `segment`. -/
def passSeparator (separator : Separator) (segment : Nat) (cursor : Cursor) :
    PassedSeparator × Cursor :=
  let behind? :=
    if segment < cursor.position || !separator.mode.needsBefore then separator.skip? cursor
    else none
  let next := behind?.getD cursor
  (⟨separator, behind?.isSome, next.position⟩, next)

mutual

/-- Reads an element. A separator on its own may be there or not. -/
def parse (settings : ParseSettings) (cursor : Cursor) (state : ParseState) :
    Element → ParseOutcome × ParseState
  | .literal text =>
    state.settle ((text.read settings cursor).map fun next => (next, state.bucket))
  | .number field => field.parse settings cursor state
  | .name field => state.settle (field.read settings cursor state.bucket)
  | .fraction field => state.settle (field.read settings cursor state.bucket)
  | .twoDigitYear field => state.settle (field.read settings cursor state.bucket)
  | .offset style => state.settle (style.read cursor state.bucket)
  | .separator between => (.advanced ((between.skip? cursor).getD cursor), state)
  | .composite elements => parseFrom settings cursor.position [] cursor state elements

/-- Reads a sequence of elements behind the separators that were passed, of which the last ended at
`segment`. -/
def parseFrom (settings : ParseSettings) (segment : Nat) (passed : List PassedSeparator)
    (cursor : Cursor) (state : ParseState) : List Element → ParseOutcome × ParseState
  | [] => finish passed cursor state
  | .separator between :: rest =>
    let (check, next) := passSeparator between segment cursor
    parseFrom settings next.position (check :: passed) next state rest
  | element :: rest =>
    match parse settings cursor state element with
    | (.advanced next, after) => parseFrom settings segment passed next after rest
    | failed => failed

end

end Element

end ChronoText
