import ChronoText.Proofs.Parsing.Units

/-! Texts without digits. Reading that skips such a text stays in front of the next digit, so of a
number it can take the sign away and nothing else. -/

set_option autoImplicit false

namespace ChronoText

namespace Text

def HasNoDigit (text : List Char) : Prop :=
  ∀ c ∈ text, c.isDigit = false

instance (text : List Char) : Decidable (HasNoDigit text) :=
  decidable_of_iff (text.all (!·.isDigit) = true) (by simp [HasNoDigit])

theorem HasNoDigit.not_mem {text : List Char} (clear : HasNoDigit text) {c : Char}
    (digit : c.isDigit = true) : c ∉ text := by
  intro member
  rw [clear c member] at digit
  cases digit

theorem beforeLetters_of_isDigit {c : Char} (digit : c.isDigit = true) : BeforeLetters c := by
  simp only [Char.isDigit, Bool.and_eq_true, decide_eq_true_eq, UInt32.le_iff_toNat_le,
    ge_iff_le] at digit
  have low : 48 ≤ c.toNat := digit.1
  have high : c.toNat ≤ 57 := digit.2
  exact ⟨by omega, by omega⟩

/-- A text that is found has no digit if the text that was looked for has none. -/
theorem hasNoDigit_take {expected text : List Char}
    (starts : startsWithCaseless expected text = true) (clear : HasNoDigit expected) :
    HasNoDigit (text.take expected.length) := by
  fun_induction startsWithCaseless expected text with
  | case1 => exact List.forall_mem_nil _
  | case2 => cases starts
  | case3 e expected c text ih =>
      obtain ⟨same, later⟩ := Bool.and_eq_true_iff.mp starts
      obtain ⟨own, others⟩ := List.forall_mem_cons.mp clear
      rw [List.length_cons, List.take_succ_cons]
      refine List.forall_mem_cons.mpr ⟨?_, ih later others⟩
      rw [← Bool.not_eq_true]
      intro digit
      rw [sameLetter_eq_of_actual (beforeLetters_of_isDigit digit) same, digit] at own
      cases own

end Text

namespace Cursor

/-- The second cursor stands in the same text, at least a number of characters further on, and no
digit stands between the two. -/
def PassesNoDigit (start next : Cursor) (least : Nat) : Prop :=
  ∃ taken, start.rest = taken ++ next.rest ∧
    next.position = start.position + Text.utf8Length taken ∧ least ≤ taken.length ∧
    Text.HasNoDigit taken

namespace PassesNoDigit

variable {start middle next : Cursor} {least more : Nat}

theorem refl (cursor : Cursor) : cursor.PassesNoDigit cursor 0 :=
  ⟨[], rfl, rfl, Nat.le_refl 0, List.forall_mem_nil _⟩

theorem trans (first : start.PassesNoDigit middle least) (second : middle.PassesNoDigit next more) :
    start.PassesNoDigit next (least + more) := by
  obtain ⟨taken, rest, position, length, clear⟩ := first
  obtain ⟨further, restBehind, positionBehind, lengthBehind, clearBehind⟩ := second
  refine ⟨taken ++ further, ?_, ?_, ?_, List.forall_mem_append.mpr ⟨clear, clearBehind⟩⟩
  · rw [rest, restBehind, List.append_assoc]
  · rw [positionBehind, position, Text.utf8Length_append, Nat.add_assoc]
  · rw [List.length_append]
    exact Nat.add_le_add length lengthBehind

theorem mono (passes : start.PassesNoDigit next more) (fewer : least ≤ more) :
    start.PassesNoDigit next least := by
  obtain ⟨taken, rest, position, length, clear⟩ := passes
  exact ⟨taken, rest, position, fewer.trans length, clear⟩

theorem mem_of_mem (passes : start.PassesNoDigit next least) {c : Char} (member : c ∈ next.rest) :
    c ∈ start.rest := by
  obtain ⟨taken, rest, _⟩ := passes
  exact rest ▸ List.mem_append_right taken member

theorem hasNoDigit (passes : start.PassesNoDigit next least) (clear : Text.HasNoDigit next.rest) :
    Text.HasNoDigit start.rest := by
  obtain ⟨taken, rest, _, _, own⟩ := passes
  exact rest ▸ List.forall_mem_append.mpr ⟨own, clear⟩

end PassesNoDigit

/-- What is skipped is as long as the expected text. -/
theorem passesNoDigit_of_skip? {cursor next : Cursor} {expected : String}
    (clear : Text.HasNoDigit expected.toList) (skipped : cursor.skip? expected = some next) :
    cursor.PassesNoDigit next expected.toList.length := by
  unfold skip? at skipped
  split at skipped
  · next starts =>
      cases skipped
      refine ⟨cursor.rest.take expected.toList.length, ?_, rfl, ?_, ?_⟩
      · exact (List.take_append_drop _ _).symm
      · exact (List.length_take_of_le (Text.length_le_of_startsWithCaseless starts)).ge
      · exact Text.hasNoDigit_take starts clear
  · cases skipped

end Cursor

/-! ## Numbers without their sign -/

namespace PrintedNumber

theorem text_ofInt_neg {value : Int} (negative : value < 0) :
    (ofInt value).text = '-' :: (ofInt (-value)).text := by
  have unsigned : ¬ -value < 0 := by omega
  simp only [ofInt, text, negative, unsigned, NumberField.signText, fractionText, decide_true,
    decide_false, Bool.false_eq_true, if_true, if_false, Int.natAbs_neg, List.nil_append,
    List.cons_append]

theorem exists_digit_text {value : Int} (nonneg : 0 ≤ value) :
    ∃ digit rest, (ofInt value).text = digit :: rest ∧ digit.isDigit = true := by
  have digits : ∀ digit < 10, (Text.digitChar '0' digit).isDigit = true := by
    decide
  obtain ⟨digit, others, shape⟩ :=
    List.exists_cons_of_ne_nil (Text.paddedDigits_ne_nil 1 value.natAbs)
  have small := Text.paddedDigits_lt 1 value.natAbs digit (shape ▸ List.mem_cons_self)
  refine ⟨Text.digitChar '0' digit, others.map (Text.digitChar '0'), ?_, digits digit small⟩
  have unsigned : ¬ value < 0 := by omega
  simp [ofInt, text, unsigned, NumberField.signText, fractionText, Text.padded_eq_map, shape]

theorem not_hasNoDigit_text (value : Int) : ¬ Text.HasNoDigit (ofInt value).text := by
  intro clear
  rcases Int.lt_or_le value 0 with negative | nonneg
  · obtain ⟨digit, digits, start, isDigit⟩ := exists_digit_text (Int.neg_nonneg_of_nonpos negative.le)
    rw [text_ofInt_neg negative, start] at clear
    exact clear.not_mem isDigit (List.mem_cons_of_mem _ List.mem_cons_self)
  · obtain ⟨digit, digits, start, isDigit⟩ := exists_digit_text nonneg
    rw [start] at clear
    exact clear.not_mem isDigit List.mem_cons_self

/-- A number without a sign starts with a digit. -/
theorem eq_nil_of_hasNoDigit {value : Int} {own tail left : List Char} (nonneg : 0 ≤ value)
    (clear : Text.HasNoDigit own) (whole : (ofInt value).text ++ tail = own ++ left) : own = [] := by
  obtain ⟨digit, digits, start, isDigit⟩ := exists_digit_text nonneg
  cases own with
  | nil => rfl
  | cons c own =>
      rw [start] at whole
      obtain ⟨rfl, _⟩ := List.cons.inj whole
      exact absurd List.mem_cons_self (clear.not_mem isDigit)

/-- Where all up to a number is taken and some of the number, but no digit, the number loses its sign
and nothing else. -/
theorem sign_of_taken {value : Int} {leading taken tail left : List Char}
    (whole : leading ++ ((ofInt value).text ++ tail) = taken ++ left)
    (longer : leading.length < taken.length) (clear : Text.HasNoDigit taken) :
    value < 0 ∧ left = (ofInt (-value)).text ++ tail := by
  rcases List.append_eq_append_iff.mp whole with ⟨own, rfl, shape⟩ | ⟨rest, rfl, _⟩
  · have ownClear : Text.HasNoDigit own := (List.forall_mem_append.mp clear).2
    have some : own ≠ [] := by
      rintro rfl
      rw [List.append_nil] at longer
      exact longer.false
    have negative : value < 0 :=
      Int.not_le.mp fun nonneg => some (eq_nil_of_hasNoDigit nonneg ownClear shape)
    refine ⟨negative, ?_⟩
    obtain ⟨sign, others, rfl⟩ := List.exists_cons_of_ne_nil some
    rw [text_ofInt_neg negative, List.cons_append, List.cons_append] at shape
    obtain ⟨_, behind⟩ := List.cons.inj shape
    have nothing := eq_nil_of_hasNoDigit (Int.neg_nonneg_of_nonpos negative.le)
      (List.forall_mem_cons.mp ownClear).2 behind
    rw [behind, nothing, List.nil_append]
  · rw [List.length_append] at longer
    omega

end PrintedNumber

end ChronoText
