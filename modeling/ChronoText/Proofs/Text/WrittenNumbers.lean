import ChronoText.Proofs.Gregorian.Words
import ChronoText.Proofs.Text.Numerals

/-! Numbers of 64 bits as they are written and read digit by digit. The digits are quotients by powers
of ten, the first of which is found by a logarithm; each number on the way is taken in a machine word.
Reading multiplies by ten and adds, and stays at the largest number once it has got there. -/

set_option autoImplicit false

namespace ChronoText.Text

open Gregorian.Word (unsigned32 unsigned64 hold?_unsigned32 step_unsigned32 step_unsigned64)

/-! ## Counts of digits -/

theorem digitCount_eq_log (value : Nat) : digitCount value = Nat.log 10 value + 1 := by
  unfold digitCount
  fun_induction decimalDigits value with
  | case1 value small => rw [Nat.log_of_lt small, List.length_singleton]
  | case2 value large ih =>
      rw [List.length_append, List.length_singleton, ih,
        Nat.log_of_one_lt_of_le (by decide) (Nat.le_of_not_lt large)]

theorem decimalDigits_eq_digits {value : Nat} (some : value ≠ 0) :
    decimalDigits value = (Nat.digits 10 value).reverse := by
  fun_induction decimalDigits value with
  | case1 value small => rw [Nat.digits_of_lt 10 value some small, List.reverse_singleton]
  | case2 value large ih =>
      have columns : Nat.digits 10 value = value % 10 :: Nat.digits 10 (value / 10) :=
        Nat.digits_def' (by decide) (by omega)
      rw [ih (by omega), columns, List.reverse_cons]

theorem lt_pow_digitCount (value : Nat) : value < 10 ^ digitCount value := by
  rw [digitCount_eq_log]
  exact Nat.lt_pow_succ_log_self (by decide) value

/-- The whole exponent of ten in a number, which zero does not have. -/
def log10? (value : Nat) : Option Nat :=
  if value = 0 then none else some (Nat.log 10 value)

/-- The number of digits, found by the logarithm. -/
def countedDigits (value : Nat) : Nat :=
  match log10? value with
  | some log => log + 1
  | none => 1

theorem countedDigits_eq (value : Nat) : countedDigits value = digitCount value := by
  unfold countedDigits log10?
  split
  · next log found =>
      split at found
      · cases found
      · cases found
        exact (digitCount_eq_log value).symm
  · next missing =>
      split at missing
      · next zero => rw [zero, digitCount_eq_log, Nat.log_zero_right]
      · cases missing

/-- A number of 64 bits has twenty digits at most. -/
theorem digitCount_le_twenty {value : Nat} (small : value < 2 ^ 64) : digitCount value ≤ 20 :=
  digitCount_le (by decide) (by omega)

/-! ## Writing -/

/-- The character of a digit, whose code is a sum of 32 bits. Behind the character set the ASCII digit
stands in, and zero for what is no digit. -/
def writtenDigit? (zero : Char) (digit : Nat) : Option Char := do
  let code ← unsigned32.hold? (zero.toNat + digit)
  pure (if code.toNat.isValidChar then Char.ofNat code.toNat
    else if digit < 10 then Char.ofNat ('0'.toNat + digit) else '0')

/-- The digits of a number from the one that `divisor` is the weight of down to the last. -/
def writtenFrom? (zero : Char) (value divisor : Nat) : Option (List Char) :=
  if divisor = 0 then some []
  else do
    let digit ← unsigned32.hold? (value / divisor % 10 : Nat)
    let c ← writtenDigit? zero digit.toNat
    let rest ← writtenFrom? zero value (divisor / 10)
    pure (c :: rest)
termination_by divisor
decreasing_by omega

/-- The text of a number as it is written, filled up with zeros first. It has no result if a number on
the way does not fit its word. -/
def written? (zero : Char) (minDigits value : Nat) : Option (List Char) := do
  let exponent ← unsigned32.hold? (countedDigits value - 1)
  let divisor ← unsigned64.hold? (10 ^ exponent.toNat : Nat)
  let digits ← writtenFrom? zero value divisor.toNat
  pure (List.replicate (minDigits - countedDigits value) zero ++ digits)

theorem writtenDigit?_eq (zero : Char) {digit : Nat} (small : digit < 10) :
    writtenDigit? zero digit = some (digitChar zero digit) := by
  have valid : zero.toNat < 0x110000 := by
    have own : zero.toNat.isValidChar := zero.valid
    unfold Nat.isValidChar at own
    omega
  have code : ((zero.toNat : Int) + digit).toNat = zero.toNat + digit := by omega
  unfold writtenDigit? digitChar
  refine step_unsigned32 (by omega) (by omega) ?_
  rw [code, if_pos small]
  rfl

/-- The loop writes the columns of the number from that of the divisor on. -/
theorem writtenFrom?_eq (zero : Char) (value count : Nat) :
    writtenFrom? zero value (10 ^ count) =
      some ((paddedDigits (count + 1) (value % 10 ^ (count + 1))).map (digitChar zero)) := by
  induction count with
  | zero =>
      have digitLt : value % 10 < 10 := Nat.mod_lt _ (by decide)
      rw [writtenFrom?, if_neg (by decide), Nat.pow_zero, Nat.div_one, Nat.zero_add, Nat.pow_one,
        paddedDigits_one digitLt]
      refine step_unsigned32 (by omega) (by omega) ?_
      rw [Int.toNat_natCast, writtenDigit?_eq zero digitLt, writtenFrom?, if_pos (by decide)]
      rfl
  | succ count ih =>
      have positive : 10 ^ (count + 1) ≠ 0 := (Nat.pow_pos (by decide)).ne'
      have shrunk : 10 ^ (count + 1) / 10 = 10 ^ count := by
        rw [Nat.pow_succ, Nat.mul_div_cancel _ (by decide)]
      have digitLt : value / 10 ^ (count + 1) % 10 < 10 := Nat.mod_lt _ (by decide)
      have first : value % 10 ^ (count + 1 + 1) / 10 ^ (count + 1) =
          value / 10 ^ (count + 1) % 10 := by
        rw [Nat.pow_succ _ (count + 1), Nat.mod_mul_right_div_self]
      have others : value % 10 ^ (count + 1 + 1) % 10 ^ (count + 1) = value % 10 ^ (count + 1) :=
        Nat.mod_mod_of_dvd _ (Nat.pow_dvd_pow 10 (Nat.le_succ _))
      rw [paddedDigits_cons (Nat.succ_pos count) (Nat.mod_lt _ (Nat.pow_pos (by decide))), first,
        others, writtenFrom?, if_neg positive]
      refine step_unsigned32 (by omega) (by omega) ?_
      rw [Int.toNat_natCast, writtenDigit?_eq zero digitLt, shrunk, ih]
      rfl

/-- Writing a number of 64 bits gets to the end, and what is written is its text. -/
theorem written?_eq (zero : Char) (minDigits : Nat) {value : Nat} (small : value < 2 ^ 64) :
    written? zero minDigits value = some (padded zero minDigits value) := by
  have twenty := digitCount_le_twenty small
  obtain ⟨count, own⟩ := Nat.exists_eq_add_one.mpr (digitCount_pos value)
  have divisorLe : 10 ^ count ≤ 10 ^ 19 := Nat.pow_le_pow_right (by decide) (by omega)
  have whole : value % 10 ^ (count + 1) = value := by
    rw [← own]
    exact Nat.mod_eq_of_lt (lt_pow_digitCount value)
  have exponent : ((digitCount value : Int) - 1).toNat = count := by omega
  have columns : paddedDigits (count + 1) value = decimalDigits value := by
    rw [paddedDigits, own, Nat.sub_self]
    rfl
  unfold written?
  rw [countedDigits_eq]
  refine step_unsigned32 (by omega) (by omega) ?_
  rw [exponent]
  refine step_unsigned64 (by omega) (by omega) ?_
  rw [Int.toNat_natCast, writtenFrom?_eq, whole, columns]
  rfl

/-! ## Reading -/

/-- The number that the digits at the start of a text continue a number to. A product or sum that is too
large is the largest number. -/
def accumulated (zero : Char) (value : Nat) : List Char → Nat
  | [] => value
  | c :: rest =>
    match digitValue? zero c with
    | some digit =>
      accumulated zero (min (min (value * 10) largestRead + digit) largestRead) rest
    | none => value

theorem accumulated_eq_foldl (zero : Char) (value : Nat) (text : List Char) :
    accumulated zero value text =
      (leadingDigits zero text).foldl (fun value digit => min (10 * value + digit) largestRead)
        value := by
  induction text generalizing value with
  | nil => rfl
  | cons c rest ih =>
      unfold accumulated leadingDigits
      cases digitValue? zero c with
      | none => rfl
      | some digit =>
          have step : min (min (value * 10) largestRead + digit) largestRead =
              min (10 * value + digit) largestRead := by omega
          dsimp only
          rw [step]
          exact ih _

/-- The number at the start of a text is the one that its digits denote. -/
theorem accumulated_eq_denoted (zero : Char) (text : List Char) :
    accumulated zero 0 text = denoted (leadingDigits zero text) :=
  accumulated_eq_foldl zero 0 text

/-- The characters of a number are its digits to all who read them as such. -/
theorem map_digitValue?_padded {zero own : Char}
    (reads : ∀ digit < 10, digitValue? zero (digitChar own digit) = some digit)
    (minDigits value : Nat) :
    (padded own minDigits value).map (digitValue? zero) =
      (paddedDigits minDigits value).map some := by
  rw [padded_eq_map, List.map_map, List.map_inj_left]
  exact fun digit member => reads digit (paddedDigits_lt minDigits value digit member)

/-- ASCII digits are read as what they are, whichever digits the culture writes. -/
theorem digitValue?_ascii (zero : Char) {digit : Nat} (small : digit < 10) :
    digitValue? zero (digitChar '0' digit) = some digit := by
  have ascii : ∀ digit < 10, '0' ≤ digitChar '0' digit ∧ digitChar '0' digit ≤ '9' ∧
      (digitChar '0' digit).toNat - '0'.toNat = digit := by decide
  obtain ⟨low, high, own⟩ := ascii digit small
  rw [digitValue?, if_pos ⟨low, high⟩, own]

theorem leadingDigits_of_map {zero : Char} {text : List Char} {digits : List Nat}
    (values : text.map (digitValue? zero) = digits.map some) : leadingDigits zero text = digits := by
  induction text generalizing digits with
  | nil => rw [List.map_eq_nil_iff.mp values.symm]; rfl
  | cons c rest ih =>
      cases digits with
      | nil => cases values
      | cons digit digits =>
          obtain ⟨own, others⟩ := List.cons_eq_cons.mp values
          simp only [leadingDigits, own, ih others]

/-- Digits of the culture or of ASCII are read as the number that was written in them, or as the
largest number if that one is smaller. -/
theorem accumulated_of_map {zero : Char} {text : List Char} {minDigits value : Nat}
    (values : text.map (digitValue? zero) = (paddedDigits minDigits value).map some) :
    accumulated zero 0 text = min value largestRead := by
  rw [accumulated_eq_denoted, leadingDigits_of_map values, denoted_eq_min,
    valueOfDigits_paddedDigits]

/-! ## Both ways -/

/-- Numbers of 64 bits are written in as many digits as are wanted and needed, without a number on the
way that its word cannot hold. The digits are those of the decimal numeral behind zeros that fill up.
Their values denote the number, and so does what is accumulated from them, up to the largest number that
is read. A text in ASCII digits is read in the same way. -/
theorem written_readBack {zero : Char} (digits : StartsDigits zero) {value : Nat}
    (small : value < 2 ^ 64) (minDigits : Nat) :
    let numeral := if value = 0 then [0] else (Nat.digits 10 value).reverse
    let text := List.replicate (minDigits - numeral.length) zero ++ numeral.map (digitChar zero)
    written? zero minDigits value = some text ∧ padded zero minDigits value = text ∧
      text.length = max minDigits numeral.length ∧
      (∃ values : List Nat, text.map (digitValue? zero) = values.map some ∧
        valueOfDigits values = value) ∧
      (value ≤ largestRead →
        accumulated zero 0 text = value ∧ denoted (leadingDigits zero text) = value) ∧
      (∀ digit < 10, digitValue? zero (digitChar '0' digit) = some digit) ∧
      (value ≤ largestRead → accumulated zero 0 (padded '0' minDigits value) = value) := by
  intro numeral text
  have own : decimalDigits value = numeral := by
    by_cases none : value = 0
    · rw [none, decimalDigits, if_pos (by decide)]
      exact (if_pos none).symm
    · rw [decimalDigits_eq_digits none]
      exact (if_neg none).symm
  have shape : padded zero minDigits value = text := by
    rw [padded, digitCount, own]
  have ascii : ∀ digit < 10, digitValue? zero (digitChar '0' digit) = some digit :=
    fun digit => digitValue?_ascii zero
  have values := map_digitValue?_padded (fun _ => digitValue?_digitChar digits) minDigits value
  have asciiValues := map_digitValue?_padded ascii minDigits value
  have length := length_padded zero minDigits value
  rw [digitCount, own] at length
  rw [shape] at values length
  refine ⟨(written?_eq zero minDigits small).trans (congrArg some shape), shape, length,
    ⟨_, values, valueOfDigits_paddedDigits minDigits value⟩, fun few => ?_,
    ascii, fun few => ?_⟩
  · have read := (accumulated_of_map values).trans (Nat.min_eq_left few)
    exact ⟨read, (accumulated_eq_denoted zero text).symm.trans read⟩
  · exact (accumulated_of_map asciiValues).trans (Nat.min_eq_left few)

/-- The largest number of 64 bits in Arabic digits, and the largest one that is read in the digits right
behind those of ASCII. -/
theorem written_readBack_largest :
    StartsDigits '٠' ∧ written? '٠' 22 18446744073709551615 = some "٠٠١٨٤٤٦٧٤٤٠٧٣٧٠٩٥٥١٦١٥".toList ∧
      StartsDigits ':' ∧ written? ':' 20 9223372036854775807 = some ":C<<==A<:=@B?>AA?B:A".toList ∧
      accumulated ':' 0 ":C<<==A<:=@B?>AA?B:A".toList = 9223372036854775807 ∧
      accumulated ':' 0 "09223372036854775807".toList = 9223372036854775807 := by
  have arabic : StartsDigits '٠' := by decide
  have behindAscii : StartsDigits ':' := by decide
  have arabicText : padded '٠' 22 18446744073709551615 = "٠٠١٨٤٤٦٧٤٤٠٧٣٧٠٩٥٥١٦١٥".toList := by cbv
  have ownText : padded ':' 20 9223372036854775807 = ":C<<==A<:=@B?>AA?B:A".toList := by cbv
  have asciiText : padded '0' 20 9223372036854775807 = "09223372036854775807".toList := by cbv
  obtain ⟨written, shape, _⟩ :=
    written_readBack arabic (show 18446744073709551615 < 2 ^ 64 by decide) 22
  obtain ⟨ownWritten, ownShape, _, _, read, _, readAscii⟩ :=
    written_readBack behindAscii (show 9223372036854775807 < 2 ^ 64 by decide) 20
  rw [← shape, arabicText] at written
  rw [← ownShape, ownText] at ownWritten read
  rw [asciiText] at readAscii
  exact ⟨arabic, written, behindAscii, ownWritten, (read (by decide)).1, readAscii (by decide)⟩

end ChronoText.Text
