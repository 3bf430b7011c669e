import ChronoText.Failure.Error
import ChronoText.Text.Digits
import ChronoText.Text.Length

/-! Fixed differences from UTC, to the second and at most eighteen hours either way. -/

set_option autoImplicit false

namespace ChronoText

inductive Sign where
  | positive
  | zero
  | negative
  deriving DecidableEq

namespace Sign

instance : Inhabited Sign := ⟨positive⟩

def ofInt (n : Int) : Sign :=
  if 0 < n then positive else if n = 0 then zero else negative

def toInt : Sign → Int
  | positive => 1
  | zero => 0
  | negative => -1

/-- The factor the sign stands for; the sign of zero changes nothing. -/
def factor : Sign → Int
  | positive | zero => 1
  | negative => -1

end Sign

structure Offset where
  seconds : Int
  seconds_ge : -64800 ≤ seconds
  seconds_le : seconds ≤ 64800
  deriving DecidableEq

namespace Offset

def utc : Offset := ⟨0, by decide, by decide⟩

instance : Inhabited Offset := ⟨utc⟩

/-- The largest offset, eighteen hours ahead of UTC. -/
def largest : Offset := ⟨64800, by decide, by decide⟩

/-- The smallest offset, eighteen hours behind UTC. -/
def smallest : Offset := ⟨-64800, by decide, by decide⟩

def ofSeconds (seconds : Int) : Except FormatError Offset :=
  if inRange : -64800 ≤ seconds ∧ seconds ≤ 64800 then pure ⟨seconds, inRange.1, inRange.2⟩
  else throw Misuse.offsetOutOfRange.error

def ofHours (hours : Int) : Except FormatError Offset :=
  ofSeconds (hours * 3600)

def ofComponents (sign : Sign) (hours minutes seconds : Nat) : Except FormatError Offset :=
  if 59 < minutes ∨ 59 < seconds then throw Misuse.offsetComponentsOutOfRange.error
  else ofSeconds ((hours * 3600 + minutes * 60 + seconds : Nat) * sign.factor)

def sign (offset : Offset) : Sign :=
  .ofInt offset.seconds

/-- The hours, minutes and seconds of the size of the offset. -/
def components (offset : Offset) : Nat × Nat × Nat :=
  let size := offset.seconds.natAbs
  (size / 3600, size / 60 % 60, size % 60)

def nanoseconds (offset : Offset) : Int :=
  offset.seconds * 1000000000

/-- The sign, the hours and the minutes, and the seconds unless they are zero, with a separator
between two parts if there is one. -/
def render (separator : Option Char) (offset : Offset) : List Char :=
  let (hours, minutes, seconds) := offset.components
  let part (value : Nat) := separator.toList ++ Text.padded '0' 2 value
  (if offset.sign = .negative then '-' else '+') :: Text.padded '0' 2 hours ++ part minutes
    ++ if seconds = 0 then [] else part seconds

/-- The form `+hh:mm`, followed by `:ss` unless the seconds are zero. -/
def text (offset : Offset) : List Char :=
  offset.render (some ':')

def lengthHint (offset : Offset) : LengthHint :=
  if offset.seconds % 60 = 0 then .exact 6 else .exact 9

end Offset

end ChronoText
