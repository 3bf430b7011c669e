/-! Decimal numbers in the digits of a culture. A culture's ten digits are the run of characters
that starts at its zero. ASCII digits are read in every culture; the run alone is written. -/

set_option autoImplicit false

namespace ChronoText.Text

/-- The value of a digit, either ASCII or of the run that starts at `zero`. -/
def digitValue? (zero c : Char) : Option Nat :=
  if '0' ≤ c ∧ c ≤ '9' then some (c.toNat - '0'.toNat)
  else if zero.toNat ≤ c.toNat ∧ c.toNat - zero.toNat < 10 then some (c.toNat - zero.toNat)
  else none

/-- The character that writes the digit `value`. Where the run has no such character, because it
would leave the character set, the ASCII digit stands in. -/
def digitChar (zero : Char) (value : Nat) : Char :=
  if (zero.toNat + value).isValidChar then Char.ofNat (zero.toNat + value)
  else Char.ofNat ('0'.toNat + value)

/-- The decimal digits of a number, the most significant first; zero has one digit. -/
def decimalDigits (value : Nat) : List Nat :=
  if value < 10 then [value] else decimalDigits (value / 10) ++ [value % 10]
termination_by value
decreasing_by omega

def digitCount (value : Nat) : Nat :=
  (decimalDigits value).length

/-- The number with at least `minDigits` digits, filled up with zeros on the left. -/
def padded (zero : Char) (minDigits value : Nat) : List Char :=
  List.replicate (minDigits - digitCount value) zero ++ (decimalDigits value).map (digitChar zero)

/-- An integer in ASCII digits, with a minus sign where it is negative. -/
def integer (value : Int) : List Char :=
  if value < 0 then '-' :: padded '0' 1 value.natAbs else padded '0' 1 value.natAbs

/-- The values of the digits that a text starts with. -/
def leadingDigits (zero : Char) : List Char → List Nat
  | [] => []
  | c :: rest =>
    match digitValue? zero c with
    | some digit => digit :: leadingDigits zero rest
    | none => []

def startsWithDigit (zero : Char) (text : List Char) : Bool :=
  (text.head?.bind (digitValue? zero)).isSome

/-- The largest number that a run of digits is read as. -/
def largestRead : Nat := 0x7fffffffffffffff

/-- The number denoted by decimal digits, or `largestRead` where they denote a larger one. -/
def denoted (digits : List Nat) : Nat :=
  digits.foldl (fun value digit => min (10 * value + digit) largestRead) 0

theorem decimalDigits_ne_nil (value : Nat) : decimalDigits value ≠ [] := by
  unfold decimalDigits
  split <;> simp

theorem digitCount_pos (value : Nat) : 0 < digitCount value :=
  List.length_pos_iff.mpr (decimalDigits_ne_nil value)

@[simp] theorem length_padded (zero : Char) (minDigits value : Nat) :
    (padded zero minDigits value).length = max minDigits (digitCount value) := by
  simp only [padded, List.length_append, List.length_replicate, List.length_map, digitCount]
  omega

end ChronoText.Text
