import ChronoText.Text.Caseless
import ChronoText.Text.Digits
import Mathlib

/-! Decimal numbers as they are written and read. What is written in the digits of a culture is
read back to the same number, as long as those digits are the ASCII digits or a run of other
characters outside ASCII. Signs and letters of ASCII are never taken for such digits, and no other
character counts as one of them up to case. -/

set_option autoImplicit false

namespace ChronoText.Text

/-- The characters from `zero` on write the ten digits: the ASCII digits, or a run of ten
characters of the character set outside ASCII. -/
def IsZeroDigit (zero : Char) : Prop :=
  zero = '0' ∨ (128 ≤ zero.toNat ∧ ∀ digit < 10, (zero.toNat + digit).isValidChar)

instance (zero : Char) : Decidable (IsZeroDigit zero) :=
  inferInstanceAs (Decidable (_ ∨ _))

theorem isZeroDigit_ascii : IsZeroDigit '0' := .inl rfl

/-! ## Single digits -/

private theorem ascii_digit_iff (c : Char) : ('0' ≤ c ∧ c ≤ '9') ↔ (48 ≤ c.toNat ∧ c.toNat ≤ 57) :=
  Iff.rfl

/-- Among the ASCII characters only the ASCII digits are digits. -/
theorem digitValue?_of_ascii {zero c : Char} (digits : IsZeroDigit zero) (ascii : c.toNat < 128) :
    digitValue? zero c = if '0' ≤ c ∧ c ≤ '9' then some (c.toNat - 48) else none := by
  unfold digitValue?
  by_cases inAscii : '0' ≤ c ∧ c ≤ '9'
  · rw [if_pos inAscii, if_pos inAscii]
    rfl
  · rw [if_neg inAscii, if_neg inAscii, if_neg]
    rw [ascii_digit_iff] at inAscii
    rcases digits with rfl | ⟨outside, _⟩
    · have code : '0'.toNat = 48 := rfl
      omega
    · omega

theorem digitValue?_eq_none_of_ascii {zero c : Char} (digits : IsZeroDigit zero)
    (ascii : c.toNat < 128) (other : c.isDigit = false) : digitValue? zero c = none := by
  rw [digitValue?_of_ascii digits ascii, if_neg]
  rw [← Bool.not_eq_true, Char.isDigit_iff_toNat] at other
  exact fun inAscii => other ((ascii_digit_iff c).mp inAscii)

/-- Only the ASCII digits are digits where zero is that of ASCII. -/
theorem digitValue?_zero_eq_none {c : Char} (other : c.isDigit = false) :
    digitValue? '0' c = none := by
  rw [← Bool.not_eq_true, Char.isDigit_iff_toNat] at other
  have zero : '0'.toNat = 48 := rfl
  have nine : '9'.toNat = 57 := rfl
  rw [digitValue?, if_neg (mt (ascii_digit_iff c).mp (by omega)), if_neg (by omega)]

/-- The characters from `zero` on write the ten digits: the ASCII digits, or a run of ten characters
of the character set none of which is an ASCII digit. -/
def StartsDigits (zero : Char) : Prop :=
  zero = '0' ∨ ∀ digit < 10, (zero.toNat + digit).isValidChar ∧
    ¬ (48 ≤ zero.toNat + digit ∧ zero.toNat + digit ≤ 57)

instance (zero : Char) : Decidable (StartsDigits zero) :=
  inferInstanceAs (Decidable (_ ∨ _))

theorem IsZeroDigit.startsDigits {zero : Char} (digits : IsZeroDigit zero) : StartsDigits zero := by
  rcases digits with ascii | ⟨outside, run⟩
  · exact .inl ascii
  · exact .inr fun digit small => ⟨run digit small, by omega⟩

@[simp] theorem digitValue?_digitChar {zero : Char} {digit : Nat} (digits : StartsDigits zero)
    (small : digit < 10) : digitValue? zero (digitChar zero digit) = some digit := by
  rcases digits with rfl | run
  · revert digit
    decide
  · obtain ⟨valid, outside⟩ := run digit small
    have code : (digitChar zero digit).toNat = zero.toNat + digit := by
      rw [digitChar, if_pos valid, Char.toNat_ofNat, if_pos valid]
    have notAscii : ¬ ('0' ≤ digitChar zero digit ∧ digitChar zero digit ≤ '9') := by
      rwa [ascii_digit_iff, code]
    rw [digitValue?, if_neg notAscii, if_pos (by omega), code, Nat.add_sub_cancel_left]

@[simp] theorem digitChar_zero (zero : Char) : digitChar zero 0 = zero := by
  have valid : zero.toNat.isValidChar := zero.valid
  rw [digitChar, Nat.add_zero, if_pos valid, Char.ofNat_toNat]

/-! ## Runs of digits -/

/-- The number that decimal digits denote, the most significant first. -/
def valueOfDigits (digits : List Nat) : Nat :=
  digits.foldl (10 * · + ·) 0

theorem valueOfDigits_concat (digits : List Nat) (last : Nat) :
    valueOfDigits (digits ++ [last]) = 10 * valueOfDigits digits + last := by
  simp only [valueOfDigits, List.foldl_append, List.foldl_cons, List.foldl_nil]

theorem valueOfDigits_zeros (count : Nat) (digits : List Nat) :
    valueOfDigits (List.replicate count 0 ++ digits) = valueOfDigits digits := by
  induction count with
  | zero => rfl
  | succ count ih => exact ih

theorem valueOfDigits_append_zeros (digits : List Nat) (count : Nat) :
    valueOfDigits (digits ++ List.replicate count 0) = valueOfDigits digits * 10 ^ count := by
  induction count with
  | zero => rw [List.replicate_zero, List.append_nil, Nat.pow_zero, Nat.mul_one]
  | succ count ih =>
      rw [List.replicate_succ', ← List.append_assoc, valueOfDigits_concat, ih, Nat.add_zero,
        Nat.pow_succ, Nat.mul_comm, Nat.mul_assoc]

theorem valueOfDigits_lt {digits : List Nat} (small : ∀ digit ∈ digits, digit < 10) :
    valueOfDigits digits < 10 ^ digits.length := by
  induction digits using List.reverseRecOn with
  | nil => exact Nat.one_pos
  | append_singleton digits last ih =>
      obtain ⟨leading, own⟩ := List.forall_mem_append.mp small
      have less := ih leading
      have lastLt := own last (List.mem_singleton_self last)
      rw [valueOfDigits_concat, List.length_append, List.length_singleton, Nat.pow_succ]
      omega

theorem decimalDigits_lt (value : Nat) : ∀ digit ∈ decimalDigits value, digit < 10 := by
  fun_induction decimalDigits value with
  | case1 value small => simpa using small
  | case2 value large ih =>
      intro digit member
      rcases List.mem_append.mp member with leading | last
      · exact ih digit leading
      · rw [List.mem_singleton.mp last]
        omega

theorem valueOfDigits_decimalDigits (value : Nat) :
    valueOfDigits (decimalDigits value) = value := by
  fun_induction decimalDigits value with
  | case1 value small => simp [valueOfDigits]
  | case2 value large ih =>
      rw [valueOfDigits_concat, ih]
      omega

theorem digitCount_le {value count : Nat} (some : 0 < count) (small : value < 10 ^ count) :
    digitCount value ≤ count := by
  unfold digitCount
  fun_induction decimalDigits value generalizing count with
  | case1 value oneDigit => exact some
  | case2 value large ih =>
      obtain ⟨count, rfl⟩ := Nat.exists_eq_add_one.mpr some
      rw [Nat.pow_succ] at small
      have more : 0 < count := by
        rcases Nat.eq_zero_or_pos count with rfl | more
        · omega
        · exact more
      have shorter := ih more (by omega)
      rw [List.length_append, List.length_singleton]
      omega

/-- The digits of a number, filled up with zeros on the left. -/
def paddedDigits (minDigits value : Nat) : List Nat :=
  List.replicate (minDigits - digitCount value) 0 ++ decimalDigits value

theorem paddedDigits_lt (minDigits value : Nat) : ∀ digit ∈ paddedDigits minDigits value, digit < 10 := by
  intro digit member
  rcases List.mem_append.mp member with filler | own
  · rw [List.eq_of_mem_replicate filler]
    omega
  · exact decimalDigits_lt value digit own

@[simp] theorem valueOfDigits_paddedDigits (minDigits value : Nat) :
    valueOfDigits (paddedDigits minDigits value) = value := by
  rw [paddedDigits, valueOfDigits_zeros, valueOfDigits_decimalDigits]

@[simp] theorem length_paddedDigits (minDigits value : Nat) :
    (paddedDigits minDigits value).length = max minDigits (digitCount value) := by
  simp only [paddedDigits, List.length_append, List.length_replicate, digitCount]
  omega

theorem paddedDigits_ne_nil (minDigits value : Nat) : paddedDigits minDigits value ≠ [] :=
  List.append_ne_nil_of_right_ne_nil _ (decimalDigits_ne_nil value)

theorem padded_eq_map (zero : Char) (minDigits value : Nat) :
    padded zero minDigits value = (paddedDigits minDigits value).map (digitChar zero) := by
  rw [padded, paddedDigits, List.map_append, List.map_replicate, digitChar_zero]

theorem padded_ne_nil (zero : Char) (minDigits value : Nat) : padded zero minDigits value ≠ [] := by
  rw [padded_eq_map]
  exact fun empty => paddedDigits_ne_nil minDigits value (List.map_eq_nil_iff.mp empty)

theorem paddedDigits_two {value : Nat} (small : value < 100) :
    paddedDigits 2 value = [value / 10, value % 10] := by
  unfold paddedDigits digitCount decimalDigits
  split
  · have tens : value / 10 = 0 := by omega
    have ones : value % 10 = value := by omega
    simp [tens, ones]
  · unfold decimalDigits
    rw [if_pos (by omega)]
    rfl

theorem paddedDigits_one {value : Nat} (small : value < 10) : paddedDigits 1 value = [value] := by
  unfold paddedDigits digitCount decimalDigits
  rw [if_pos small]
  rfl

/-- The last column holds what is left by ten. -/
theorem paddedDigits_concat {count : Nat} (some : 0 < count) (value : Nat) :
    paddedDigits (count + 1) value = paddedDigits count (value / 10) ++ [value % 10] := by
  obtain ⟨count, rfl⟩ := Nat.exists_eq_add_one.mpr some
  by_cases small : value < 10
  · have own : decimalDigits value = [value] := by rw [decimalDigits, if_pos small]
    have rest : decimalDigits 0 = [0] := by rw [decimalDigits, if_pos (by decide)]
    have none : value / 10 = 0 := by omega
    have last : value % 10 = value := by omega
    simp only [paddedDigits, digitCount, own, none, rest, last, List.length_singleton,
      Nat.add_sub_cancel, ← List.replicate_succ']
  · have own : decimalDigits value = decimalDigits (value / 10) ++ [value % 10] := by
      rw [decimalDigits, if_neg small]
    simp only [paddedDigits, digitCount, own, List.length_append, List.length_singleton,
      Nat.add_sub_add_right, List.append_assoc]

/-- The first column holds the quotient by the power of ten that it stands for. -/
theorem paddedDigits_cons {count value : Nat} (some : 0 < count)
    (small : value < 10 ^ (count + 1)) :
    paddedDigits (count + 1) value =
      value / 10 ^ count :: paddedDigits count (value % 10 ^ count) := by
  induction count generalizing value with
  | zero => cases some
  | succ count ih =>
      rcases Nat.eq_zero_or_pos count with rfl | more
      · rw [paddedDigits_two (by omega), paddedDigits_one (by omega)]
        rfl
      · have shorter : value / 10 < 10 ^ (count + 1) := by
          rw [Nat.pow_succ] at small
          omega
        have first : value / 10 / 10 ^ count = value / 10 ^ (count + 1) := by
          rw [Nat.div_div_eq_div_mul, Nat.pow_succ, Nat.mul_comm 10]
        have middle : value % 10 ^ (count + 1) / 10 = value / 10 % 10 ^ count := by
          rw [Nat.pow_succ, Nat.mod_mul_left_div_self]
        have last : value % 10 ^ (count + 1) % 10 = value % 10 := by
          rw [Nat.pow_succ, Nat.mod_mul_left_mod]
        rw [paddedDigits_concat (by omega), ih more shorter, paddedDigits_concat more, first, middle,
          last, List.cons_append]

/-! ## Reading digits -/

theorem leadingDigits_append {zero : Char} (digits : StartsDigits zero) {values : List Nat}
    (small : ∀ digit ∈ values, digit < 10) (rest : List Char) :
    leadingDigits zero (values.map (digitChar zero) ++ rest) = values ++ leadingDigits zero rest := by
  induction values with
  | nil => rfl
  | cons digit values ih =>
      have first := digitValue?_digitChar digits (small digit List.mem_cons_self)
      have others := ih fun other member => small other (List.mem_cons_of_mem _ member)
      simp only [List.map_cons, List.cons_append, leadingDigits, first, others]

theorem leadingDigits_eq_nil {zero : Char} {text : List Char}
    (stop : startsWithDigit zero text = false) : leadingDigits zero text = [] := by
  cases text with
  | nil => rfl
  | cons c rest =>
      cases value : digitValue? zero c with
      | none => simp only [leadingDigits, value]
      | some digit => simp [startsWithDigit, value] at stop

theorem leadingDigits_padded {zero : Char} (digits : IsZeroDigit zero) (minDigits value : Nat)
    {rest : List Char} (stop : startsWithDigit zero rest = false) :
    leadingDigits zero (padded zero minDigits value ++ rest) = paddedDigits minDigits value := by
  rw [padded_eq_map, leadingDigits_append digits.startsDigits (paddedDigits_lt minDigits value),
    leadingDigits_eq_nil stop, List.append_nil]

/-- Of so many characters at most, those digits are taken that stand there: all that are wanted, or
those before the next character, which is none. -/
theorem leadingDigits_take_append {zero : Char} (zeroDigit : IsZeroDigit zero) {digits : List Nat}
    (small : ∀ digit ∈ digits, digit < 10) {limit : Nat} (fits : digits.length ≤ limit)
    {rest : List Char} (stop : limit ≤ digits.length ∨ startsWithDigit zero rest = false) :
    leadingDigits zero ((digits.map (digitChar zero) ++ rest).take limit) = digits := by
  have length : (digits.map (digitChar zero)).length = digits.length := List.length_map _
  have ends : startsWithDigit zero (rest.take (limit - digits.length)) = false := by
    rcases stop with full | stop
    · rw [Nat.sub_eq_zero_of_le full, List.take_zero]
      rfl
    · cases limit - digits.length with
      | zero => rfl
      | succ more =>
          cases rest with
          | nil => rfl
          | cons c rest => exact stop
  rw [List.take_append, length, List.take_of_length_le (by omega),
    leadingDigits_append zeroDigit.startsDigits small, leadingDigits_eq_nil ends, List.append_nil]

theorem startsWithDigit_padded {zero : Char} (digits : IsZeroDigit zero) (minDigits value : Nat)
    (rest : List Char) : startsWithDigit zero (padded zero minDigits value ++ rest) = true := by
  rw [padded_eq_map]
  obtain ⟨digit, others, shape⟩ := List.exists_cons_of_ne_nil (paddedDigits_ne_nil minDigits value)
  have small : digit < 10 := paddedDigits_lt minDigits value digit (shape ▸ List.mem_cons_self)
  simp [shape, startsWithDigit, digitValue?_digitChar digits.startsDigits small]

theorem denoted_eq_min (digits : List Nat) :
    denoted digits = min (valueOfDigits digits) largestRead := by
  induction digits using List.reverseRecOn with
  | nil => rfl
  | append_singleton digits last ih =>
      have step : denoted (digits ++ [last]) = min (10 * denoted digits + last) largestRead := by
        simp only [denoted, List.foldl_append, List.foldl_cons, List.foldl_nil]
      rw [step, ih, valueOfDigits_concat]
      omega

theorem denoted_paddedDigits {value : Nat} (minDigits : Nat) (small : value ≤ largestRead) :
    denoted (paddedDigits minDigits value) = value := by
  rw [denoted_eq_min, valueOfDigits_paddedDigits, Nat.min_eq_left small]

end ChronoText.Text
