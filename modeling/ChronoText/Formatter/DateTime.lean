import ChronoText.Formatter.Tree
import ChronoText.Parsing.Position
import ChronoText.Parsing.Resolution
import ChronoText.Pattern.Standard
import ChronoText.Temporal.Zone

/-! Formatters of date-times: a tree to print with, a tree to read with, and the surroundings in
which they do so. Each setting is changed by making another formatter. -/

set_option autoImplicit false

namespace ChronoText

/-- What becomes of offsets. -/
inductive OffsetHandling where
  /-- Values are printed and read in UTC. -/
  | utc
  /-- Values are printed in a zone and turned to it when they are read. -/
  | inZone (zone : Zone)
  /-- Values that are read keep the offset they were written with. -/
  | asParsed

structure DateTimeFormatter where
  printer? : Option FormatTree
  parser? : Option FormatTree
  culture : Culture := .invariant
  /-- The calendar to print in, the ISO calendar unless another is set. -/
  calendar? : Option Calendar := none
  offsets : OffsetHandling := .utc
  pivotYear? : Option Int := none
  styles : ParseStyles := {}

namespace DateTimeFormatter

def zone? (formatter : DateTimeFormatter) : Option Zone :=
  match formatter.offsets with
  | .inZone zone => some zone
  | .utc | .asParsed => none

def keepsParsedOffset (formatter : DateTimeFormatter) : Bool :=
  match formatter.offsets with
  | .asParsed => true
  | .utc | .inZone _ => false

def calendar (formatter : DateTimeFormatter) : Calendar :=
  formatter.calendar?.getD (Iso.calendar 0)

def withCulture (formatter : DateTimeFormatter) (culture : Culture) : DateTimeFormatter :=
  { formatter with culture }

def withCalendar (formatter : DateTimeFormatter) (calendar : Calendar) : DateTimeFormatter :=
  { formatter with calendar? := some calendar }

/-- Sets the zone; offsets are no longer kept as they were read. -/
def withZone (formatter : DateTimeFormatter) (zone : Zone) : DateTimeFormatter :=
  { formatter with offsets := .inZone zone }

/-- Keeps offsets as they are read; there is no longer a zone. -/
def withOffsetParsed (formatter : DateTimeFormatter) : DateTimeFormatter :=
  { formatter with offsets := .asParsed }

def withPivotYear (formatter : DateTimeFormatter) (pivotYear : Int) : DateTimeFormatter :=
  { formatter with pivotYear? := some pivotYear }

def withStyles (formatter : DateTimeFormatter) (styles : ParseStyles) : DateTimeFormatter :=
  { formatter with styles }

/-- Whether two formatters share trees, calendar and zone and agree in all other settings. -/
def same (first second : DateTimeFormatter) : Bool :=
  FormatTree.sameOption first.printer? second.printer?
    && FormatTree.sameOption first.parser? second.parser?
    && first.culture = second.culture
    && first.calendar?.map (·.handle) = second.calendar?.map (·.handle)
    && first.zone?.map (·.handle) = second.zone?.map (·.handle)
    && first.pivotYear? = second.pivotYear?
    && first.keepsParsedOffset = second.keepsParsedOffset
    && first.styles = second.styles

def ofPattern (handle : Nat) (culture : Culture) (pattern : String) :
    Except FormatError DateTimeFormatter := do
  let elements ← failureAsError (Pattern.elements culture pattern)
  let tree : FormatTree := ⟨handle, elements⟩
  pure { printer? := some tree, parser? := some tree, culture }

/-! ## Printing -/

/-- What a clock of the zone shows at an instant; without a zone the clock is at UTC. -/
def resolveInstant (formatter : DateTimeFormatter) (instant : Instant) : OffsetDateTime :=
  let offset :=
    match formatter.zone? with
    | some zone => zone.offsetAt instant
    | none => .utc
  .ofInstant instant offset

def printContext (formatter : DateTimeFormatter) (value : LocalDateTime)
    (offset? : Option Offset) : PrintContext :=
  ⟨formatter.culture, .dateTime value offset? formatter.calendar⟩

def printAtOffset (formatter : DateTimeFormatter) (value : OffsetDateTime) :
    Except FormatError (List Char) := do
  let tree ← requirePrinter formatter.printer?
  pure (tree.print (formatter.printContext value.datetime (some value.offset)))

def printInstant (formatter : DateTimeFormatter) (instant : Instant) :
    Except FormatError String :=
  String.ofList <$> formatter.printAtOffset (formatter.resolveInstant instant)

/-- The text of an instant in the zone, printed into a space of a number of bytes. -/
def printInstantWithin (formatter : DateTimeFormatter) (space : Nat) (instant : Instant) :
    Except FormatError String := do
  withinSpace space (← formatter.printAtOffset (formatter.resolveInstant instant))

/-- The text of a date-time turned to the zone, or at its own offset if there is no zone. -/
def printOffsetDateTime (formatter : DateTimeFormatter) (value : OffsetDateTime) :
    Except FormatError String := do
  let value ←
    match formatter.zone? with
    | some _ => formatter.resolveInstant <$> value.toInstant
    | none => pure value
  String.ofList <$> formatter.printAtOffset value

/-- The text of a date-time without an offset. If the format prints one it is that of the zone, so
that there has to be a zone. -/
def printLocal (formatter : DateTimeFormatter) (value : LocalDateTime) :
    Except FormatError String := do
  let tree ← requirePrinter formatter.printer?
  let offset? ←
    match formatter.zone? with
    | some zone => pure (some (zone.offsetForLocal value))
    | none =>
      if tree.requiresOffset then throw Misuse.offsetWithoutZone.error else pure none
  pure (String.ofList (tree.print (formatter.printContext value offset?)))

/-- A number of bytes that the text of an instant does not exceed. -/
def estimateLength (formatter : DateTimeFormatter) (instant : Instant) :
    Except FormatError Nat := do
  let tree ← requirePrinter formatter.printer?
  let value := formatter.resolveInstant instant
  pure (tree.lengthHint (formatter.printContext value.datetime (some value.offset))).capacity

/-! ## Reading -/

def parseSettings (formatter : DateTimeFormatter) : ParseSettings where
  culture := formatter.culture
  styles := formatter.styles
  pivotYear := formatter.pivotYear?.getD defaultPivotYear

/-- Reads from a position of a text, of which some may be left over. -/
def parseFrom (formatter : DateTimeFormatter) (text : String) (position : Nat) :
    Except FormatError (ParseOutcome × ParseState) := do
  let tree ← requireParser formatter.parser?
  pure (Element.parseAt formatter.parseSettings text.toList position (.composite tree.elements))

/-- The value that the components in a bucket make. An offset that was read is kept or turned to
the zone; otherwise the offset is that of the zone for the date-time. -/
def valueOf (formatter : DateTimeFormatter) (bucket : Bucket) :
    Except Failure OffsetDateTime := do
  let value ← bucket.toLocal
  match bucket.offset?, formatter.offsets with
  | some offset, .asParsed => pure ⟨value, offset⟩
  | some offset, _ =>
    match (OffsetDateTime.mk value offset).toInstant with
    | .ok instant => pure (formatter.resolveInstant instant)
    | .error _ => throw { kind := .noSuchValue, params := [.text "OffsetDateTime"] }
  | none, .inZone zone => pure ⟨value, zone.offsetForLocal value⟩
  | none, _ => pure ⟨value, .utc⟩

/-- Reads a whole text. The result is a failure if the text does not fit, and an error only if
there is nothing to read with. -/
def tryParse (formatter : DateTimeFormatter) (text : String) :
    Except FormatError (Except Failure OffsetDateTime) := do
  let tree ← requireParser formatter.parser?
  pure do
    let bucket ←
      parseWhole tree.elements formatter.parseSettings text.toList "OffsetDateTime"
    formatter.valueOf bucket

def parse (formatter : DateTimeFormatter) (text : String) :
    Except FormatError OffsetDateTime := do
  failureAsError (← formatter.tryParse text)

/-- Reads a whole text and leaves out any offset in it. -/
def parseLocal (formatter : DateTimeFormatter) (text : String) :
    Except FormatError LocalDateTime := do
  let tree ← requireParser formatter.parser?
  failureAsError do
    let bucket ←
      parseWhole tree.elements formatter.parseSettings text.toList "LocalDateTime"
    bucket.toLocal

end DateTimeFormatter

end ChronoText
