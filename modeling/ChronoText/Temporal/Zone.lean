import ChronoText.Temporal.Instant

/-! Time zones, which say what offset clocks have at an instant and what offset a date-time of
such a clock is read at. -/

set_option autoImplicit false

namespace ChronoText

/-- A zone as formats use it. Two zones are the same when their handles are. -/
structure Zone where
  handle : Nat
  identifier : String
  offsetAt : Instant → Offset
  offsetForLocal : LocalDateTime → Offset

namespace Zone

/-- The identifier of the zone that always has the offset. -/
def fixedIdentifier (offset : Offset) : String :=
  if offset = .utc then "UTC" else "UTC" ++ String.ofList offset.text

def fixed (handle : Nat) (offset : Offset) : Zone where
  handle
  identifier := fixedIdentifier offset
  offsetAt _ := offset
  offsetForLocal _ := offset

end Zone

end ChronoText
