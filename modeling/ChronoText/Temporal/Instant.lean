import ChronoText.Temporal.LocalDateTime
import ChronoText.Temporal.Offset

/-! Instants, which are points on the UTC time line up to a hundred million days from its origin,
and date-times at an offset, which are instants as a clock shows them. -/

set_option autoImplicit false

namespace ChronoText

structure Instant where
  nanoseconds : Int
  nanoseconds_ge : -8640000000000000000000 ≤ nanoseconds
  nanoseconds_le : nanoseconds ≤ 8640000000000000000000
  deriving DecidableEq

namespace Instant

/-- The origin of the time line, 1970-01-01 at midnight UTC. -/
def unixEpoch : Instant := ⟨0, by decide, by decide⟩

instance : Inhabited Instant := ⟨unixEpoch⟩

def ofNanoseconds (nanoseconds : Int) : Except FormatError Instant :=
  if inRange : -8640000000000000000000 ≤ nanoseconds ∧ nanoseconds ≤ 8640000000000000000000 then
    pure ⟨nanoseconds, inRange.1, inRange.2⟩
  else throw Misuse.instantOutOfRange.error

def ofMilliseconds (milliseconds : Int) : Except FormatError Instant :=
  ofNanoseconds (milliseconds * 1000000)

/-- The instant nearest to a number of seconds from the origin. -/
def ofSeconds (seconds : Int) : Instant where
  nanoseconds :=
    max (-8640000000000000000000) (min (seconds * 1000000000) 8640000000000000000000)
  nanoseconds_ge := by omega
  nanoseconds_le := by omega

def toUtc (instant : Instant) : LocalDateTime :=
  .ofEpochNanoseconds instant.nanoseconds

def text (instant : Instant) : List Char :=
  instant.toUtc.text ++ ['Z']

def lengthHint (instant : Instant) : LengthHint :=
  instant.toUtc.lengthHint + .exact 1

end Instant

/-- A date-time and the offset of the clock that shows it. -/
structure OffsetDateTime where
  datetime : LocalDateTime
  offset : Offset
  deriving DecidableEq

namespace OffsetDateTime

/-- What a clock at an offset shows at an instant. -/
def ofInstant (instant : Instant) (offset : Offset) : OffsetDateTime :=
  ⟨.ofEpochNanoseconds (instant.nanoseconds + offset.nanoseconds), offset⟩

def toInstant (value : OffsetDateTime) : Except FormatError Instant :=
  Instant.ofNanoseconds (value.datetime.epochNanoseconds - value.offset.nanoseconds)

def text (value : OffsetDateTime) : List Char :=
  value.datetime.text ++ value.offset.text

def lengthHint (value : OffsetDateTime) : LengthHint :=
  value.datetime.lengthHint + value.offset.lengthHint

end OffsetDateTime

end ChronoText
