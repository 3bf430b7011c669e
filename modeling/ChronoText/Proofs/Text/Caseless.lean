import ChronoText.Proofs.Text.Numerals

/-! Characters that are their own and only case. The ASCII characters before the letters, among them
digits, signs and separators, are no lower case of any other character, so in a comparison without
regard to case they agree with themselves alone. -/

set_option autoImplicit false

namespace ChronoText.Text

def BeforeLetters (c : Char) : Prop :=
  0 < c.toNat ∧ c.toNat < 65

instance (c : Char) : Decidable (BeforeLetters c) :=
  inferInstanceAs (Decidable (_ ∧ _))

/-- Capital letters start at `A`, and so do their lower cases. -/
private theorem caseRuns_from_letters :
    ∀ run ∈ caseRuns, 65 ≤ run.first ∧ 65 ≤ (run.first : Int) + run.shift := by
  decide +kernel

private theorem toNat_ofNat_eq (code : Nat) :
    (Char.ofNat code).toNat = code ∨ (Char.ofNat code).toNat = 0 := by
  rw [Char.toNat_ofNat]
  exact ite_eq_or_eq _ _ _

/-- The lower case of a character is a character before the letters only if it is that character
itself. -/
theorem eq_of_lowercase_eq {c target : Char} (low : BeforeLetters target)
    (same : lowercase c = [target]) : c = target := by
  unfold lowercase at same
  split at same
  · simp at same
  · split at same
    · next run found =>
        have member := List.mem_of_find?_eq_some found
        have covered := List.find?_some found
        simp only [CaseRun.covers, Bool.and_eq_true, decide_eq_true_eq] at covered
        obtain ⟨_, image⟩ := caseRuns_from_letters run member
        have high : 65 ≤ run.lower c.toNat := by
          unfold CaseRun.lower
          omega
        have code : (Char.ofNat (run.lower c.toNat)).toNat = target.toNat := by
          rw [List.singleton_inj.mp same]
        obtain ⟨positive, small⟩ := low
        rcases toNat_ofNat_eq (run.lower c.toNat) with same | zero <;> omega
    · exact List.singleton_inj.mp same

theorem lowercase_of_beforeLetters {c : Char} (low : BeforeLetters c) : lowercase c = [c] := by
  have notDotted : c ≠ '\u0130' := by
    rintro rfl
    exact absurd low (by decide)
  have uncovered : caseRuns.find? (·.covers c.toNat) = none := by
    rw [List.find?_eq_none]
    intro run member covered
    simp only [CaseRun.covers, Bool.and_eq_true, decide_eq_true_eq] at covered
    have start := (caseRuns_from_letters run member).1
    have small := low.2
    omega
  simp only [lowercase, notDotted, if_false, uncovered]

theorem sameLetter_eq_of_actual {expected actual : Char} (low : BeforeLetters actual)
    (same : sameLetter expected actual = true) : expected = actual := by
  simp only [sameLetter, Bool.or_eq_true, beq_iff_eq] at same
  rcases same with equal | sameCase
  · exact equal.symm
  · exact eq_of_lowercase_eq low (sameCase ▸ lowercase_of_beforeLetters low)

theorem sameLetter_eq_of_expected {expected actual : Char} (low : BeforeLetters expected)
    (same : sameLetter expected actual = true) : expected = actual := by
  simp only [sameLetter, Bool.or_eq_true, beq_iff_eq] at same
  rcases same with equal | sameCase
  · exact equal.symm
  · exact (eq_of_lowercase_eq low (sameCase.trans (lowercase_of_beforeLetters low))).symm

/-! ## ASCII characters -/

theorem toNat_of_isAlpha {letter : Char} (alpha : letter.isAlpha = true) :
    65 ≤ letter.toNat ∧ letter.toNat < 128 := by
  simp only [Char.isAlpha, Char.isUpper, Char.isLower, Bool.or_eq_true, Bool.and_eq_true,
    decide_eq_true_eq, UInt32.le_iff_toNat_le, ge_iff_le] at alpha
  rcases alpha with ⟨low, high⟩ | ⟨low, high⟩
  · have low : 65 ≤ letter.toNat := low
    have high : letter.toNat ≤ 90 := high
    omega
  · have low : 97 ≤ letter.toNat := low
    have high : letter.toNat ≤ 122 := high
    omega

theorem toLower_of_not_alpha {c : Char} (other : c.isAlpha = false) : c.toLower = c := by
  rw [Char.isAlpha, Bool.or_eq_false_iff] at other
  exact Char.toLower_eq_of_not_isUpper (Bool.eq_false_iff.mp other.1)

theorem lowercase_of_ascii {c : Char} (ascii : c.toNat < 128) : lowercase c = [c.toLower] := by
  have codes : ∀ code : Fin 128,
      lowercase (Char.ofNat code) = [(Char.ofNat code).toLower] := by
    decide +kernel
  have own := codes ⟨c.toNat, ascii⟩
  rwa [Char.ofNat_toNat] at own

theorem sameLetter_eq_false_of_ascii {expected actual : Char} (expectedAscii : expected.toNat < 128)
    (actualAscii : actual.toNat < 128) (different : actual.toLower ≠ expected.toLower) :
    sameLetter expected actual = false := by
  have other : actual ≠ expected := by
    rintro rfl
    exact different rfl
  rw [sameLetter, lowercase_of_ascii expectedAscii, lowercase_of_ascii actualAscii]
  simp [other, different]

/-- Text that starts with another character than the expected one, which is before the letters,
does not start with the expected text. -/
theorem startsWithCaseless_eq_false {e c : Char} (expected text : List Char)
    (low : BeforeLetters e ∨ BeforeLetters c) (different : e ≠ c) :
    startsWithCaseless (e :: expected) (c :: text) = false := by
  rw [startsWithCaseless, Bool.and_eq_false_iff]
  left
  rw [← Bool.not_eq_true]
  intro same
  rcases low with low | low
  · exact different (sameLetter_eq_of_expected low same)
  · exact different (sameLetter_eq_of_actual low same)

theorem startsWithCaseless_sign {zero sign : Char} {text : List Char} (digits : IsZeroDigit zero)
    (low : BeforeLetters sign) (notDigit : sign.isDigit = false)
    (start : startsWithDigit zero text = true) : startsWithCaseless [sign] text = false := by
  cases text with
  | nil => simp [startsWithDigit] at start
  | cons c rest =>
      refine startsWithCaseless_eq_false [] rest (.inl low) ?_
      rintro rfl
      have ascii : sign.toNat < 128 := by
        have small := low.2
        omega
      simp [startsWithDigit, digitValue?_eq_none_of_ascii digits ascii notDigit] at start

end ChronoText.Text
