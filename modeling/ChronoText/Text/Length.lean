/-! Lengths of texts in UTF-8 bytes, and bounds on the length of a text that is yet to be written.
Lengths are counted in 64 bits. Bounds that add up to more than that stay true: the lower one is
the largest count, and the upper one is given up. -/

set_option autoImplicit false

namespace ChronoText

/-- The number of bytes of a text in UTF-8. -/
def Text.utf8Length (text : List Char) : Nat :=
  text.foldr (fun c length => c.utf8Size + length) 0

/-- The largest length that can be counted. -/
def maxLength : Nat :=
  0xffffffffffffffff

/-- Bounds on the UTF-8 length of a text. Without an upper bound any length may follow. -/
structure LengthHint where
  lower : Nat
  upper : Option Nat
  deriving DecidableEq

namespace LengthHint

def exact (length : Nat) : LengthHint :=
  ⟨length, some length⟩

def between (lower upper : Nat) : LengthHint :=
  ⟨min lower upper, some (max lower upper)⟩

/-- The sum of two upper bounds, if it can be counted. -/
def addUpper (first second : Nat) : Option Nat :=
  if first + second ≤ maxLength then some (first + second) else none

protected def add (first second : LengthHint) : LengthHint where
  lower := min (first.lower + second.lower) maxLength
  upper := first.upper.bind fun bound => second.upper.bind (addUpper bound)

instance : Add LengthHint := ⟨LengthHint.add⟩

/-- The space to set aside for a text: the upper bound if there is one. -/
def capacity (hint : LengthHint) : Nat :=
  hint.upper.getD hint.lower

/-- Where the sum can be counted, the hint of two known lengths is known. -/
theorem exact_add_exact {first second : Nat} (countable : first + second ≤ maxLength) :
    exact first + exact second = exact (first + second) := by
  show LengthHint.add _ _ = _
  simp [LengthHint.add, addUpper, exact, countable]

end LengthHint

namespace Text

@[simp] theorem utf8Length_nil : utf8Length [] = 0 := rfl

@[simp] theorem utf8Length_cons (c : Char) (rest : List Char) :
    utf8Length (c :: rest) = c.utf8Size + utf8Length rest := rfl

@[simp] theorem utf8Length_append (first second : List Char) :
    utf8Length (first ++ second) = utf8Length first + utf8Length second := by
  induction first with
  | nil => exact (Nat.zero_add _).symm
  | cons c rest ih =>
      rw [List.cons_append, utf8Length_cons, utf8Length_cons, ih, Nat.add_assoc]

end Text

end ChronoText
