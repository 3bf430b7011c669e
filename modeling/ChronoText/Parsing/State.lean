import ChronoText.Culture
import ChronoText.Parsing.Bucket
import ChronoText.Parsing.Cursor

/-! What reading goes by and what it leaves. The settings stay the same all along; the state
collects components and the first failure. Reading an element either gets on to a cursor behind it
or fails at a position. -/

set_option autoImplicit false

namespace ChronoText

/-- Where blank characters may stand without being asked for. -/
structure ParseStyles where
  leadingBlank : Bool := false
  trailingBlank : Bool := false
  /-- Whether a blank literal matches any number of blank characters, also none. -/
  innerBlank : Bool := false
  deriving DecidableEq

/-- The pivot year where none is set. -/
def defaultPivotYear : Int := 2000

structure ParseSettings where
  culture : Culture
  styles : ParseStyles := {}
  /-- The year around which years of two digits lie. -/
  pivotYear : Int := defaultPivotYear
  periodType : PeriodType := .standard

structure ParseState where
  bucket : Bucket := .empty
  /-- The first failure, with its position. -/
  failure? : Option Failure := none

structure Fault where
  position : Nat
  failure : Failure

inductive ParseOutcome where
  | advanced (cursor : Cursor)
  | failedAt (position : Nat)

namespace ParseState

/-- Fails. A failure that was recorded before is kept. -/
def fail (state : ParseState) (fault : Fault) : ParseOutcome × ParseState :=
  (.failedAt fault.position,
    { state with
      failure? := state.failure?.or (some (fault.failure.located fault.position)) })

/-- Gets on with more components read, or fails with the components as they are. -/
def settle (state : ParseState) (result : Except Fault (Cursor × Bucket)) :
    ParseOutcome × ParseState :=
  match result with
  | .ok (cursor, bucket) => (.advanced cursor, { state with bucket })
  | .error fault => state.fail fault

end ParseState

/-- An outcome without the text that is left. -/
inductive ParsePosition where
  | advanced (position : Nat)
  | failedAt (position : Nat)
  deriving DecidableEq

namespace ParsePosition

/-- The outcome as one integer: an advance as its position and a failure as the bitwise complement
of its position. -/
def encode : ParsePosition → Int
  | advanced position => position
  | failedAt position => -position - 1

def decode (encoded : Int) : ParsePosition :=
  if 0 ≤ encoded then advanced encoded.toNat else failedAt (-encoded - 1).toNat

def isSuccess : ParsePosition → Bool
  | advanced _ => true
  | failedAt _ => false

def position : ParsePosition → Nat
  | advanced position => position
  | failedAt position => position

theorem decode_encode (outcome : ParsePosition) : decode outcome.encode = outcome := by
  cases outcome with
  | advanced position => simp [encode, decode]
  | failedAt position =>
      have negative : ¬ (0 : Int) ≤ -(position : Int) - 1 := by omega
      simp only [encode, decode, negative, if_false]
      congr
      omega

end ParsePosition

namespace ParseOutcome

def position : ParseOutcome → ParsePosition
  | advanced cursor => .advanced cursor.position
  | failedAt position => .failedAt position

end ParseOutcome

end ChronoText
