import ChronoText.Proofs.Printing.Lengths
import ChronoText.Proofs.Temporal.Instants

/-! Display texts of date-times as they are written, one digit after another. The digits of a fraction
are quotients by a divisor that shrinks until nothing is left of the fraction; it does not come down to
zero before. -/

set_option autoImplicit false

namespace ChronoText

namespace Text

/-! ## Digits without zeros at the end -/

def trimmed (digits : List Nat) : List Nat :=
  digits.rdropWhile (· == 0)

theorem trimmed_concat (digits : List Nat) (last : Nat) :
    trimmed (digits ++ [last]) = if last = 0 then trimmed digits else digits ++ [last] := by
  simp only [trimmed, List.rdropWhile_concat, beq_iff_eq]

theorem trimmed_eq_nil_iff {digits : List Nat} :
    trimmed digits = [] ↔ ∀ digit ∈ digits, digit = 0 := by
  simp only [trimmed, List.rdropWhile_eq_nil_iff, beq_iff_eq]

/-- A first digit stays, unless it is a zero and so are all that follow. -/
theorem trimmed_cons {first : Nat} {digits : List Nat} (some : trimmed (first :: digits) ≠ []) :
    trimmed (first :: digits) = first :: trimmed digits := by
  induction digits using List.reverseRecOn with
  | nil =>
      rw [← List.nil_append [first], trimmed_concat] at some ⊢
      split at some
      · exact absurd rfl some
      · next nonzero => rw [if_neg nonzero]; rfl
  | append_singleton digits last ih =>
      rw [← List.cons_append, trimmed_concat] at some ⊢
      rw [trimmed_concat]
      split at some
      · next zero => rw [if_pos zero, if_pos zero, ih some]
      · next nonzero => rw [if_neg nonzero, if_neg nonzero, List.cons_append]

theorem exists_trimmed_append_zeros (digits : List Nat) :
    ∃ count, digits = trimmed digits ++ List.replicate count 0 := by
  induction digits using List.reverseRecOn with
  | nil => exact ⟨0, rfl⟩
  | append_singleton digits last ih =>
      rw [trimmed_concat]
      split
      · next zero =>
          obtain ⟨count, whole⟩ := ih
          refine ⟨count + 1, ?_⟩
          rw [List.replicate_succ', ← List.append_assoc, ← whole, zero]
      · exact ⟨0, (List.append_nil _).symm⟩

theorem map_digitChar_trimmed {digits : List Nat} (small : ∀ digit ∈ digits, digit < 10) :
    ((digits.map (digitChar '0')).reverse.dropWhile (· == '0')).reverse =
      (trimmed digits).map (digitChar '0') := by
  have isZero : ∀ digit < 10, (digitChar '0' digit == '0') = decide (digit = 0) := by decide
  induction digits using List.reverseRecOn with
  | nil => rfl
  | append_singleton digits last ih =>
      obtain ⟨others, own⟩ := List.forall_mem_append.mp small
      have lastZero := isZero last (own last (List.mem_singleton_self last))
      rw [trimmed_concat, List.map_append, List.map_singleton, List.reverse_append,
        List.reverse_singleton, List.singleton_append, List.dropWhile_cons]
      simp only [lastZero, decide_eq_true_eq]
      split
      · exact ih others
      · rw [List.reverse_cons, List.reverse_reverse, List.map_append, List.map_singleton]

theorem trimmed_paddedDigits_eq_nil_iff {count value : Nat} :
    trimmed (paddedDigits count value) = [] ↔ value = 0 := by
  rw [trimmed_eq_nil_iff]
  constructor
  · intro zeros
    have same := valueOfDigits_append_zeros [] (paddedDigits count value).length
    rw [List.nil_append, ← List.eq_replicate_of_mem zeros, valueOfDigits_paddedDigits] at same
    exact same.trans (Nat.zero_mul _)
  · rintro rfl digit member
    have own : decimalDigits 0 = [0] := by rw [decimalDigits, if_pos (by decide)]
    rw [paddedDigits, own] at member
    rcases List.mem_append.mp member with filler | last
    · exact List.eq_of_mem_replicate filler
    · exact List.mem_singleton.mp last

end Text

open Text (padded paddedDigits digitChar trimmed)

namespace LocalDateTime

/-! ## Writing step by step -/

/-- A number below a hundred with two digits. -/
def writtenTwo (value : Nat) : List Char :=
  (if value < 10 then ['0'] else []) ++ padded '0' 1 value

def writtenYear (year : Int) : List Char :=
  if 0 ≤ year ∧ year ≤ 9999 then writtenTwo (year.toNat / 100) ++ writtenTwo (year.toNat % 100)
  else
    (if year < 0 then '-' else '+') :: [100000, 10000, 1000, 100, 10, 1].flatMap fun divisor =>
      padded '0' 1 (year.natAbs / divisor % 10)

/-- Quotients by a divisor that loses a digit with each of them, until nothing is left. By zero there
is no quotient. -/
def writtenQuotients? (divisor rest : Nat) : Option (List Char) :=
  if rest = 0 then some []
  else if divisor = 0 then none
  else (padded '0' 1 (rest / divisor) ++ ·) <$> writtenQuotients? (divisor / 10) (rest % divisor)
termination_by divisor
decreasing_by omega

def writtenFraction? (nanosecond : Nat) : Option (List Char) :=
  if nanosecond = 0 then some [] else ('.' :: ·) <$> writtenQuotients? 100000000 nanosecond

/-- The display text as it is written, which has no result if a divisor is zero. -/
def written? (value : LocalDateTime) : Option (List Char) := do
  let fraction ← writtenFraction? value.time.nanosecond
  pure (writtenYear value.date.year ++ '-' :: writtenTwo value.date.month
    ++ '-' :: writtenTwo value.date.day
    ++ 'T' :: writtenTwo value.time.hour
    ++ ':' :: writtenTwo value.time.minute
    ++ ':' :: writtenTwo value.time.second
    ++ fraction)

theorem padded_one {value : Nat} (small : value < 10) : padded '0' 1 value = [digitChar '0' value] := by
  rw [Text.padded_eq_map, Text.paddedDigits_one small, List.map_singleton]

theorem writtenTwo_eq {value : Nat} (small : value < 100) : writtenTwo value = padded '0' 2 value := by
  unfold writtenTwo
  split
  · next oneDigit =>
      have tens : value / 10 = 0 := by omega
      have ones : value % 10 = value := by omega
      rw [padded_one oneDigit, Text.padded_eq_map, Text.paddedDigits_two small, tens, ones]
      rfl
  · next twoDigits =>
      have count : 1 < Text.digitCount value := by
        rw [Text.digitCount, Text.decimalDigits, if_neg twoDigits, List.length_append]
        exact Nat.lt_add_of_pos_left (Text.digitCount_pos _)
      have noFiller : 1 - Text.digitCount value = 2 - Text.digitCount value := by omega
      rw [padded, padded, noFiller, List.nil_append]

theorem writtenYear_eq {year : Int} (small : year.natAbs < 1000000) :
    writtenYear year = yearText year := by
  unfold writtenYear yearText
  split
  · next plain =>
      have four : padded '0' 4 year.toNat =
          padded '0' 2 (year.toNat / 100) ++ padded '0' 2 (year.toNat % 100) := by
        simp only [Text.padded_eq_map, ← List.map_append]
        rw [Text.paddedDigits_concat (by decide), Text.paddedDigits_concat (by decide),
          Nat.div_div_eq_div_mul, List.append_assoc, Text.paddedDigits_two (by omega : year.toNat % 100 < 100)]
        congr 3
        simp only [List.singleton_append, List.cons.injEq, and_true]
        omega
      rw [four, writtenTwo_eq (by omega), writtenTwo_eq (by omega)]
  · have each (divisor : Nat) : padded '0' 1 (year.natAbs / divisor % 10) =
        [digitChar '0' (year.natAbs / divisor % 10)] := padded_one (Nat.mod_lt _ (by decide))
    have six : paddedDigits 6 year.natAbs =
        [100000, 10000, 1000, 100, 10, 1].map fun divisor => year.natAbs / divisor % 10 := by
      rw [Text.paddedDigits_concat (by decide), Text.paddedDigits_concat (by decide),
        Text.paddedDigits_concat (by decide), Text.paddedDigits_concat (by decide),
        Text.paddedDigits_two (by omega)]
      simp only [Nat.div_div_eq_div_mul, Nat.reduceMul, List.cons_append, List.nil_append,
        List.map_cons, List.map_nil, Nat.div_one, List.cons.injEq, and_true]
      omega
    rw [Text.padded_eq_map, six, List.map_map]
    simp only [each]
    rfl

theorem writtenQuotients?_eq {count rest : Nat} (small : rest < 10 ^ (count + 1)) :
    writtenQuotients? (10 ^ count) rest =
      some ((trimmed (paddedDigits (count + 1) rest)).map (digitChar '0')) := by
  induction count generalizing rest with
  | zero =>
      rw [writtenQuotients?, Text.paddedDigits_one small]
      split
      · next zero => rw [zero]; rfl
      · next some =>
          have nothing : rest % 10 ^ 0 = 0 := Nat.mod_one rest
          have whole : rest / 10 ^ 0 = rest := Nat.div_one rest
          have kept : trimmed [rest] = [rest] := (Text.trimmed_concat [] rest).trans (if_neg some)
          rw [if_neg (by decide), nothing, whole, writtenQuotients?, if_pos rfl, padded_one small, kept]
          rfl
  | succ count ih =>
      rw [writtenQuotients?]
      split
      · next zero =>
          rw [Text.trimmed_paddedDigits_eq_nil_iff.mpr zero, List.map_nil]
      · next some =>
          have positive : 0 < 10 ^ (count + 1) := Nat.pow_pos (by decide)
          have shrunk : 10 ^ (count + 1) / 10 = 10 ^ count := by
            rw [Nat.pow_succ, Nat.mul_div_cancel _ (by decide)]
          have first : rest / 10 ^ (count + 1) < 10 := by
            refine Nat.div_lt_of_lt_mul ?_
            rwa [← Nat.pow_succ]
          have kept : trimmed (paddedDigits (count + 1 + 1) rest) ≠ [] :=
            mt Text.trimmed_paddedDigits_eq_nil_iff.mp some
          have columns := Text.paddedDigits_cons (Nat.succ_pos count) small
          rw [if_neg positive.ne', shrunk, ih (Nat.mod_lt _ positive), padded_one first]
          rw [columns] at kept ⊢
          rw [Text.trimmed_cons kept]
          rfl

theorem fractionText_eq {nanosecond : Nat} (some : nanosecond ≠ 0) :
    fractionText nanosecond =
      '.' :: (trimmed (paddedDigits 9 nanosecond)).map (digitChar '0') := by
  rw [fractionText, if_neg some, Text.padded_eq_map,
    Text.map_digitChar_trimmed (Text.paddedDigits_lt 9 nanosecond)]

theorem writtenFraction?_eq {nanosecond : Nat} (small : nanosecond ≤ 999999999) :
    writtenFraction? nanosecond = some (fractionText nanosecond) := by
  unfold writtenFraction?
  split
  · next zero =>
      rw [zero]
      rfl
  · next nonzero =>
      have written : writtenQuotients? 100000000 nanosecond = _ :=
        @writtenQuotients?_eq 8 nanosecond (by omega)
      rw [written, fractionText_eq nonzero]
      rfl

theorem natAbs_year_lt {date : Gregorian.Date} (valid : date.IsValid) :
    date.year.natAbs < 1000000 := by
  have yearGe := valid.year_ge
  have yearLe := valid.year_le
  unfold Gregorian.minYear at yearGe
  unfold Gregorian.maxYear at yearLe
  omega

/-- Writing gets to the end, and what is written is the display text. -/
theorem written?_eq {value : LocalDateTime} (valid : value.IsValid) :
    value.written? = some value.text := by
  obtain ⟨date, hourLe, minuteLe, secondLe, nanosecondLe⟩ := valid
  have monthLe := date.month_le
  have dayLe := Nat.le_trans date.day_le (Gregorian.daysInMonth_le_thirtyOne _ _)
  rw [written?, writtenFraction?_eq nanosecondLe, writtenYear_eq (natAbs_year_lt date),
    writtenTwo_eq (by omega), writtenTwo_eq (by omega), writtenTwo_eq (by omega),
    writtenTwo_eq (by omega), writtenTwo_eq (by omega)]
  rfl

/-! ## Lengths -/

def secondsLength (year : Int) : Nat :=
  (if 0 ≤ year ∧ year ≤ 9999 then 4 else 7) + 15

theorem utf8Length_yearText {year : Int} (small : year.natAbs < 1000000) :
    Text.utf8Length (yearText year) + 15 = secondsLength year := by
  have one : '0'.utf8Size = 1 := rfl
  unfold yearText secondsLength
  split
  · next plain =>
      rw [Text.utf8Length_padded_of_lt Text.digitsAlike_ascii (by decide) (by omega), one]
  · next signed =>
      have sign : (if year < 0 then '-' else '+').utf8Size = 1 := by
        split <;> rfl
      rw [Text.utf8Length_cons, sign,
        Text.utf8Length_padded_of_lt Text.digitsAlike_ascii (by decide) (by omega), one]

theorem utf8Length_fractionText {nanosecond : Nat} (some : nanosecond ≠ 0)
    (small : nanosecond ≤ 999999999) :
    2 ≤ Text.utf8Length (fractionText nanosecond) ∧
      Text.utf8Length (fractionText nanosecond) ≤ 10 := by
  have kept : trimmed (paddedDigits 9 nanosecond) ≠ [] :=
    mt Text.trimmed_paddedDigits_eq_nil_iff.mp some
  obtain ⟨count, whole⟩ := Text.exists_trimmed_append_zeros (paddedDigits 9 nanosecond)
  have length := congrArg List.length whole
  have nine : Text.digitCount nanosecond ≤ 9 := Text.digitCount_le (by decide) (by omega)
  have digits := Text.paddedDigits_lt 9 nanosecond
  have own : ∀ digit ∈ trimmed (paddedDigits 9 nanosecond), digit < 10 := by
    intro digit member
    refine digits digit ?_
    rw [whole]
    exact List.mem_append_left _ member
  have even : ∀ c ∈ (trimmed (paddedDigits 9 nanosecond)).map (digitChar '0'), c.utf8Size = 1 := by
    intro c member
    obtain ⟨digit, digitMember, rfl⟩ := List.mem_map.mp member
    have sizes : ∀ digit < 10, (digitChar '0' digit).utf8Size = 1 := by decide
    exact sizes digit (own digit digitMember)
  have point : '.'.utf8Size = 1 := rfl
  have positive := List.length_pos_iff.mpr kept
  rw [Text.length_paddedDigits, List.length_append, List.length_replicate] at length
  rw [fractionText_eq some, Text.utf8Length_cons, point, Text.utf8Length_of_forall even,
    List.length_map]
  omega

theorem utf8Length_text {value : LocalDateTime} (valid : value.IsValid) :
    Text.utf8Length value.text =
      secondsLength value.date.year + Text.utf8Length (fractionText value.time.nanosecond) := by
  obtain ⟨date, hourLe, minuteLe, secondLe, nanosecondLe⟩ := valid
  have monthLe := date.month_le
  have dayLe := Nat.le_trans date.day_le (Gregorian.daysInMonth_le_thirtyOne _ _)
  have year := utf8Length_yearText (natAbs_year_lt date)
  have two {value : Nat} (small : value < 100) : Text.utf8Length (padded '0' 2 value) = 2 :=
    Text.utf8Length_padded_of_lt Text.digitsAlike_ascii (by decide) small
  have dash : '-'.utf8Size = 1 := rfl
  have letter : 'T'.utf8Size = 1 := rfl
  have colon : ':'.utf8Size = 1 := rfl
  rw [text]
  simp only [Text.utf8Length_append, Text.utf8Length_cons, dash, letter, colon]
  rw [two (by omega), two (by omega), two (by omega), two (by omega), two (by omega)]
  omega

end LocalDateTime

/-- The hint bounds a length from both sides. -/
structure LengthHint.Encloses (hint : LengthHint) (length : Nat) : Prop where
  lower_le : hint.lower ≤ length
  upper : ∃ bound, hint.upper = some bound ∧ length ≤ bound

namespace LengthHint

theorem encloses_exact (length : Nat) : (exact length).Encloses length :=
  ⟨Nat.le_refl length, length, rfl, Nat.le_refl length⟩

theorem encloses_between {lower length upper : Nat} (least : lower ≤ length)
    (most : length ≤ upper) : (between lower upper).Encloses length :=
  ⟨Nat.le_trans (Nat.min_le_left _ _) least, _, rfl, Nat.le_trans most (Nat.le_max_right _ _)⟩

theorem Encloses.add_exact {hint : LengthHint} {length : Nat} (encloses : hint.Encloses length)
    {more : Nat} (short : ∀ bound ∈ hint.upper, bound + more ≤ maxLength) :
    (hint + exact more).Encloses (length + more) := by
  obtain ⟨least, bound, same, most⟩ := encloses
  constructor
  · exact Nat.le_trans (Nat.min_le_left _ _) (Nat.add_le_add_right least more)
  · refine ⟨bound + more, ?_, Nat.add_le_add_right most more⟩
    show hint.upper.bind (fun own => addUpper own more) = some (bound + more)
    rw [same, Option.bind_some, addUpper, if_pos (short bound same)]

end LengthHint

theorem LocalDateTime.lengthHint_encloses {value : LocalDateTime} (valid : value.IsValid) :
    value.lengthHint.Encloses (Text.utf8Length value.text) := by
  rw [utf8Length_text valid]
  unfold lengthHint
  dsimp only
  split
  · next zero =>
      rw [zero]
      exact LengthHint.encloses_exact _
  · next nonzero =>
      obtain ⟨least, most⟩ := utf8Length_fractionText nonzero valid.time.nanosecond_le
      exact LengthHint.encloses_between (Nat.add_le_add_left least _) (Nat.add_le_add_left most _)

theorem LocalDateTime.upper_lengthHint_le (value : LocalDateTime) :
    ∀ bound ∈ value.lengthHint.upper, bound ≤ 32 := by
  intro bound same
  unfold lengthHint at same
  dsimp only at same
  split at same <;> cases same <;> split <;> decide

theorem Offset.lengthHint_eq (offset : Offset) :
    offset.lengthHint = .exact (Text.utf8Length offset.text) := by
  have length : Text.utf8Length offset.text = _ := OffsetStyle.utf8Length_render .extended offset
  rw [length, lengthHint]
  split <;> rfl

theorem Offset.utf8Length_text_le (offset : Offset) : Text.utf8Length offset.text ≤ 9 := by
  have length : Text.utf8Length offset.text = _ := OffsetStyle.utf8Length_render .extended offset
  rw [length]
  split <;> decide

theorem OffsetDateTime.lengthHint_encloses {value : OffsetDateTime} (valid : value.datetime.IsValid) :
    value.lengthHint.Encloses (Text.utf8Length value.text) := by
  have offsetLe := value.offset.utf8Length_text_le
  rw [lengthHint, text, Text.utf8Length_append, Offset.lengthHint_eq]
  refine (LocalDateTime.lengthHint_encloses valid).add_exact fun bound same => ?_
  have bounded := value.datetime.upper_lengthHint_le bound same
  unfold maxLength
  omega

theorem Instant.lengthHint_encloses (instant : Instant) :
    instant.lengthHint.Encloses (Text.utf8Length instant.text) := by
  have valid : instant.toUtc.IsValid := by
    have shown := OffsetDateTime.ofInstant_isValid instant .utc
    have noOffset : instant.nanoseconds + Offset.utc.nanoseconds = instant.nanoseconds :=
      Int.add_zero _
    rwa [OffsetDateTime.ofInstant, noOffset] at shown
  rw [lengthHint, text, Text.utf8Length_append]
  refine (LocalDateTime.lengthHint_encloses valid).add_exact fun bound same => ?_
  have bounded := instant.toUtc.upper_lengthHint_le bound same
  unfold maxLength
  omega

end ChronoText
