import ChronoText.Text.Lowercase

/-! Comparison of texts without regard to case. Two texts agree when they agree character by
character, each pair being equal or having the same lower case. A character is never matched by
two, so a match consumes as many characters as the expected text has. -/

set_option autoImplicit false

namespace ChronoText.Text

def sameLetter (expected actual : Char) : Bool :=
  actual == expected || lowercase actual == lowercase expected

/-- Whether `text` starts with `expected`, up to case. -/
def startsWithCaseless : (expected text : List Char) → Bool
  | [], _ => true
  | _ :: _, [] => false
  | e :: expected, c :: text => sameLetter e c && startsWithCaseless expected text

@[simp] theorem sameLetter_self (c : Char) : sameLetter c c = true := by
  simp [sameLetter]

@[simp] theorem startsWithCaseless_append (expected rest : List Char) :
    startsWithCaseless expected (expected ++ rest) = true := by
  induction expected with
  | nil => rfl
  | cons e expected ih => simp [startsWithCaseless, ih]

/-- A matched text is at least as long as what was expected. -/
theorem length_le_of_startsWithCaseless {expected text : List Char}
    (starts : startsWithCaseless expected text = true) : expected.length ≤ text.length := by
  induction expected generalizing text with
  | nil => simp
  | cons e expected ih =>
      cases text with
      | nil => simp [startsWithCaseless] at starts
      | cons c text =>
          simp only [startsWithCaseless, Bool.and_eq_true] at starts
          simpa using ih starts.2

end ChronoText.Text
