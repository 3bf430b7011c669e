import ChronoText.Proofs.Parsing.DisguisedElements
import ChronoText.Proofs.Parsing.Places

/-! The case of letters. Texts that differ only in the case of ASCII letters read alike: literals,
affixes, separators, signs and names are compared without regard to case, digits and decimal
separators are no letters, and an offset may start with either letter Z. -/

set_option autoImplicit false

namespace ChronoText

/-- No ASCII letter is a digit of the culture or belongs to its decimal separator. -/
structure Culture.SparesLetters (culture : Culture) : Prop where
  digit : ∀ value < 10, (Text.digitChar culture.zeroDigit value).isAlpha = false
  decimal : ∀ c ∈ culture.decimalSeparator.toList, c.isAlpha = false

theorem Culture.sparesLetters_invariant : Culture.invariant.SparesLetters where
  digit := by decide
  decimal := by
    have full : Culture.invariant.decimalSeparator.toList = ['.'] := rfl
    rw [full]
    exact List.forall_mem_singleton.mpr rfl

theorem Culture.SparesLetters.digitValue?_eq_none {culture : Culture}
    (spares : culture.SparesLetters) {c : Char} (alpha : c.isAlpha = true) :
    Text.digitValue? culture.zeroDigit c = none := by
  have code := (Text.toNat_of_isAlpha alpha).1
  have ascii : ¬ ('0' ≤ c ∧ c ≤ '9') := by
    rintro ⟨_, atMost⟩
    have small : c.toNat ≤ '9'.toNat := atMost
    have nine : '9'.toNat = 57 := rfl
    omega
  unfold Text.digitValue?
  rw [if_neg ascii, if_neg]
  rintro ⟨least, within⟩
  -- A character of the run is the digit of its place in the run.
  have place : culture.zeroDigit.toNat + (c.toNat - culture.zeroDigit.toNat) = c.toNat := by omega
  have own := spares.digit _ within
  rw [Text.digitChar, place, if_pos (show c.toNat.isValidChar from c.valid), Char.ofNat_toNat,
    alpha] at own
  cases own

/-- The disguise that writes all ASCII letters in lower case. -/
def Disguise.lowerCase {culture : Culture} (spares : culture.SparesLetters) : Disguise culture where
  shift := 0
  replace := Char.toLower
  toLower_replace := Char.toLower_toLower_eq_toLower
  digitValue?_replace c := by
    cases alpha : c.isAlpha with
    | false => rw [Text.toLower_of_not_alpha alpha]
    | true =>
        have lower : c.toLower.isAlpha = true := (Char.isAlpha_toLower_eq_isAlpha c).trans alpha
        rw [spares.digitValue?_eq_none alpha, spares.digitValue?_eq_none lower]
  decimal_replace e member c := by
    have other := spares.decimal e member
    cases alpha : c.isAlpha with
    | false => rw [Text.toLower_of_not_alpha alpha]
    | true =>
        have lower : c.toLower.isAlpha = true := (Char.isAlpha_toLower_eq_isAlpha c).trans alpha
        have apart {letter : Char} (alpha : letter.isAlpha = true) : letter ≠ e := by
          rintro rfl
          exact nomatch alpha.symm.trans other
        exact iff_of_false (apart lower) (apart alpha)

namespace Disguise

variable {culture : Culture} (disguise : Disguise culture)

/-- A text in disguise has its places where the text has them. -/
theorem dropBytes_text (bytes : Nat) (chars : List Char) :
    Cursor.dropBytes bytes (disguise.text chars) =
      disguise.text <$> Cursor.dropBytes bytes chars := by
  induction chars generalizing bytes with
  | nil => cases bytes <;> rfl
  | cons c rest ih =>
      cases bytes with
      | zero => rfl
      | succ bytes =>
          rw [text_cons, Cursor.dropBytes, utf8Size_replace, ih, Cursor.dropBytes]
          split <;> rfl

end Disguise

theorem ParseState.movedOn_zero (state : ParseState) : state.movedOn 0 = state := by
  obtain ⟨bucket, failure?⟩ := state
  cases failure? with
  | none => rfl
  | some failure =>
      obtain ⟨kind, params, argument?, position?⟩ := failure
      cases position? <;> rfl

theorem ParsePosition.movedOn_zero (outcome : ParsePosition) : outcome.movedOn 0 = outcome := by
  cases outcome <;> rfl

namespace Element

variable {settings : ParseSettings}

/-- A text reads like the text in lower case. -/
theorem parse_lowerCase (spares : settings.culture.SparesLetters) (position : Nat)
    (rest : List Char) (state : ParseState) (element : Element) :
    let lower := parse settings ⟨position, rest.map Char.toLower⟩ state element
    let read := parse settings ⟨position, rest⟩ state element
    lower.1.position = read.1.position ∧ lower.2 = read.2 := by
  intro lower read
  have both : parse settings ⟨position, rest.map Char.toLower⟩ (state.movedOn 0) element =
      (Disguise.lowerCase spares).ending read :=
    (Disguise.lowerCase spares).parse_cursor ⟨position, rest⟩ state element
  rw [ParseState.movedOn_zero] at both
  have ended : lower = (Disguise.lowerCase spares).ending read := both
  rw [ended]
  refine ⟨?_, ParseState.movedOn_zero read.2⟩
  exact (Disguise.position_outcome _ read.1).trans (ParsePosition.movedOn_zero _)

/-- Texts that agree but for the case of letters have the same places. -/
theorem seek_of_same_letters {culture : Culture} (spares : culture.SparesLetters)
    {first second : List Char} (same : first.map Char.toLower = second.map Char.toLower)
    {position : Nat} {start : Cursor} (found : Cursor.seek first position = .ok start) :
    ∃ rest other, start = ⟨position, rest⟩ ∧ Cursor.seek second position = .ok ⟨position, other⟩ ∧
      rest.map Char.toLower = other.map Char.toLower := by
  have inFirst := (Disguise.lowerCase spares).dropBytes_text position first
  have inSecond := (Disguise.lowerCase spares).dropBytes_text position second
  have texts : (Disguise.lowerCase spares).text first = (Disguise.lowerCase spares).text second := same
  unfold Cursor.seek at found ⊢
  cases drop : Cursor.dropBytes position first with
  | error place =>
      rw [drop] at found
      cases found
  | ok rest =>
      rw [drop] at found inFirst
      cases found
      rw [← texts, inFirst] at inSecond
      cases other : Cursor.dropBytes position second with
      | error place =>
          rw [other] at inSecond
          cases inSecond
      | ok otherRest =>
          rw [other] at inSecond
          exact ⟨rest, otherRest, rfl, rfl, Except.ok.inj inSecond⟩

/-- Parsing ignores the case of ASCII letters. In a culture without letters among its digits and in
its decimal separator, texts that agree but for the case of letters have the same places, and from
each of them any tree of elements reads both to the same outcome, the same bucket and the same
failure. -/
theorem parse_ignores_case (spares : settings.culture.SparesLetters) {first second : List Char}
    (same : first.map Char.toLower = second.map Char.toLower) {position : Nat} {start : Cursor}
    (found : Cursor.seek first position = .ok start) :
    ∃ other, Cursor.seek second position = .ok other ∧ ∀ (state : ParseState) (element : Element),
      (parse settings start state element).1.position =
          (parse settings other state element).1.position ∧
        (parse settings start state element).2 = (parse settings other state element).2 := by
  obtain ⟨rest, otherRest, rfl, place, letters⟩ := seek_of_same_letters spares same found
  refine ⟨_, place, fun state element => ?_⟩
  obtain ⟨outcome, later⟩ := parse_lowerCase spares position rest state element
  obtain ⟨otherOutcome, otherLater⟩ := parse_lowerCase spares position otherRest state element
  rw [letters] at outcome later
  exact ⟨outcome.symm.trans otherOutcome, later.symm.trans otherLater⟩

/-- The name of a day is read whatever the case of its letters, also behind other text. -/
theorem parse_ignores_case_name :
    let settings : ParseSettings := { culture := .invariant }
    let saturday : Element := .name ⟨.dayOfWeek, .long⟩
    settings.culture.SparesLetters ∧
      "on Saturday".toList.map Char.toLower = "oN sAtURDaY".toList.map Char.toLower ∧
      Cursor.seek "on Saturday".toList 3 = .ok ⟨3, "Saturday".toList⟩ ∧
      Cursor.seek "oN sAtURDaY".toList 3 = .ok ⟨3, "sAtURDaY".toList⟩ ∧
      (parse settings ⟨3, "sAtURDaY".toList⟩ {} saturday).1.position = .advanced 11 ∧
      (parse settings ⟨3, "sAtURDaY".toList⟩ {} saturday).2.bucket.fields .dayOfWeek = some 6 := by
  intro settings saturday
  have spares : settings.culture.SparesLetters := Culture.sparesLetters_invariant
  have same : "on Saturday".toList.map Char.toLower = "oN sAtURDaY".toList.map Char.toLower := by
    decide
  have found : Cursor.seek "on Saturday".toList 3 = .ok ⟨3, "Saturday".toList⟩ := rfl
  have place : Cursor.seek "oN sAtURDaY".toList 3 = .ok ⟨3, "sAtURDaY".toList⟩ := rfl
  have advanced :
      (parse settings ⟨3, "Saturday".toList⟩ {} saturday).1.position = .advanced 11 := by
    decide +kernel
  have day :
      (parse settings ⟨3, "Saturday".toList⟩ {} saturday).2.bucket.fields .dayOfWeek = some 6 := by
    decide +kernel
  obtain ⟨other, sought, alike⟩ := parse_ignores_case spares same found
  cases place.symm.trans sought
  obtain ⟨outcome, later⟩ := alike {} saturday
  rw [outcome] at advanced
  rw [later] at day
  exact ⟨spares, same, found, place, advanced, day⟩

end Element

end ChronoText
