import ChronoText.Proofs.Parsing.Disguise

/-! Reading texts in disguise. Each reader takes from a text in disguise what it takes from the text,
and meets the same failures at places that have moved on. -/

set_option autoImplicit false

namespace ChronoText.Disguise

variable {settings : ParseSettings}

theorem read_literal (disguise : Disguise settings.culture) (literal : Literal) (place : Cursor) :
    literal.read settings (disguise.cursor place) =
      result disguise.fault disguise.cursor (literal.read settings place) := by
  unfold Literal.read
  simp only [rest_cursor, takeWhile_isBlank_text, length_text, advance_cursor, skip?_cursor]
  refine ite_result rfl ?_
  cases place.skip? (literal.resolve settings.culture) <;> rfl

theorem read_name (disguise : Disguise settings.culture) (name : NameField) (place : Cursor)
    (bucket : Bucket) :
    name.read settings (disguise.cursor place) bucket =
      result disguise.fault disguise.taken (name.read settings place bucket) := by
  unfold NameField.read
  simp only [rest_cursor, startsWithCaseless_text, advance_cursor]
  split <;> rfl

theorem read_fraction (disguise : Disguise settings.culture) (fraction : FractionField)
    (place : Cursor) (bucket : Bucket) :
    fraction.read settings (disguise.cursor place) bucket =
      result disguise.fault disguise.taken (fraction.read settings place bucket) := by
  unfold FractionField.read
  simp only [rest_cursor, take_text, leadingDigits_text, advance_cursor]
  exact ite_result rfl rfl

theorem read_twoDigitYear (disguise : Disguise settings.culture) (year : TwoDigitYear)
    (place : Cursor) (bucket : Bucket) :
    year.read settings (disguise.cursor place) bucket =
      result disguise.fault disguise.taken (year.read settings place bucket) := by
  unfold TwoDigitYear.read
  simp only [rest_cursor, take_text, leadingDigits_text, advance_cursor]
  split <;> rfl

/-! ## Offsets -/

section Offsets

variable {culture : Culture} (disguise : Disguise culture)

theorem twoDigits?_text (chars : List Char) :
    OffsetStyle.twoDigits? (disguise.text chars) = OffsetStyle.twoDigits? chars := by
  have notDigit : ∀ c : Char, c.isAlpha = true → c.isDigit = false := by
    intro c alpha
    have code := (Text.toNat_of_isAlpha alpha).1
    have nine : '9'.toNat = 57 := rfl
    rw [← Bool.not_eq_true, Char.isDigit_iff_toNat]
    omega
  -- A digit is no letter, so it stays what it is.
  have value (c : Char) : (disguise.replace c).isDigit = c.isDigit ∧
      (c.isDigit = true → disguise.replace c = c) := by
    refine ⟨disguise.class_replace Char.isDigit notDigit c, fun digit => ?_⟩
    apply disguise.replace_of_not_alpha
    rw [← Bool.not_eq_true]
    intro alpha
    rw [notDigit c alpha] at digit
    cases digit
  match chars with
  | [] => rfl
  | [_] => rfl
  | tens :: ones :: rest =>
      simp only [text_cons, OffsetStyle.twoDigits?, (value tens).1, (value ones).1]
      split
      · next both =>
          rw [Bool.and_eq_true] at both
          rw [(value tens).2 both.1, (value ones).2 both.2]
      · rfl

theorem head?_text (chars : List Char) :
    (disguise.text chars).head? = chars.head?.map disguise.replace :=
  List.head?_map

/-- What is no letter starts a text and its disguise alike. -/
theorem head?_text_eq_some_iff {c : Char} (other : c.isAlpha = false) (chars : List Char) :
    (disguise.text chars).head? = some c ↔ chars.head? = some c := by
  simp only [head?_text, Option.map_eq_some_iff, disguise.replace_eq_iff other, exists_eq_right]

theorem read_twoDigits (place : Cursor) :
    OffsetStyle.twoDigits (disguise.cursor place) =
      result disguise.fault (fun read : Nat × Cursor => (read.1, disguise.cursor read.2))
        (OffsetStyle.twoDigits place) := by
  unfold OffsetStyle.twoDigits
  simp only [rest_cursor, twoDigits?_text, advance_cursor]
  split <;> rfl

theorem skipSeparator_cursor (style : OffsetStyle) (place : Cursor) :
    style.skipSeparator (disguise.cursor place) =
      result disguise.fault disguise.cursor (style.skipSeparator place) := by
  unfold OffsetStyle.skipSeparator
  cases style with
  | basic => rfl
  | extended =>
      have colon := disguise.head?_text_eq_some_iff (c := ':') rfl place.rest
      simp only [OffsetStyle.separator?, rest_cursor, colon, advance_cursor]
      exact ite_result rfl rfl

theorem optionalSeconds_cursor (style : OffsetStyle) (place : Cursor) :
    style.optionalSeconds (disguise.cursor place) =
      ((style.optionalSeconds place).1, disguise.cursor (style.optionalSeconds place).2) := by
  unfold OffsetStyle.optionalSeconds
  rw [skipSeparator_cursor]
  cases style.skipSeparator place with
  | error fault => rfl
  | ok behind =>
      simp only [result, rest_cursor, twoDigits?_text, advance_cursor]
      split <;> rfl

/-- The offset that was read and the place behind it, in disguise. -/
def takenOffset (read : Offset × Cursor) : Offset × Cursor :=
  (read.1, disguise.cursor read.2)

theorem readParts_cursor (style : OffsetStyle) (sign : Sign) (start : Cursor) :
    style.readParts sign (disguise.cursor start) =
      result disguise.fault disguise.takenOffset (style.readParts sign start) := by
  unfold OffsetStyle.readParts
  rw [advance_cursor]
  refine bind_result (disguise.read_twoDigits _) fun hours => ?_
  refine bind_result (disguise.skipSeparator_cursor style _) fun behind => ?_
  refine bind_result (disguise.read_twoDigits _) fun minutes => ?_
  simp only [optionalSeconds_cursor]
  split <;> rfl

/-- A letter that stands for no offset is told by its lower case. -/
theorem readOffset_eq (style : OffsetStyle) (place : Cursor) :
    style.readOffset place =
      if place.rest.head?.map Char.toLower = some 'z' then pure (.utc, place.advance 1)
      else if place.rest.head? = some '+' then style.readParts .positive place
      else if place.rest.head? = some '-' then style.readParts .negative place
      else throw ⟨place.position, { kind := .signMissing }⟩ := by
  have letters : ∀ code : Fin 128, (Char.ofNat code).toLower = 'z' →
      Char.ofNat code = 'Z' ∨ Char.ofNat code = 'z' := by
    decide
  unfold OffsetStyle.readOffset
  split
  · next head =>
      rw [head]
      rfl
  · next head =>
      rw [head]
      rfl
  · next head => rw [head, if_neg (by decide), if_pos rfl]
  · next head => rw [head, if_neg (by decide), if_neg (by decide), if_pos rfl]
  · next capital small plus minus =>
      rw [if_neg, if_neg plus, if_neg minus]
      intro same
      obtain ⟨c, head, lower⟩ := Option.map_eq_some_iff.mp same
      have alpha : c.isAlpha = true := by
        rw [← Char.isAlpha_toLower_eq_isAlpha, lower]
        rfl
      have own := letters ⟨c.toNat, (Text.toNat_of_isAlpha alpha).2⟩
      rw [Char.ofNat_toNat] at own
      rcases own lower with rfl | rfl
      · exact capital head
      · exact small head

theorem readOffset_cursor (style : OffsetStyle) (place : Cursor) :
    style.readOffset (disguise.cursor place) =
      result disguise.fault disguise.takenOffset (style.readOffset place) := by
  have lower : (disguise.cursor place).rest.head?.map Char.toLower =
      place.rest.head?.map Char.toLower := by
    rw [rest_cursor, head?_text, Option.map_map]
    exact congrArg (place.rest.head?.map ·) (funext disguise.toLower_replace)
  have plus := disguise.head?_text_eq_some_iff (c := '+') rfl place.rest
  have minus := disguise.head?_text_eq_some_iff (c := '-') rfl place.rest
  rw [readOffset_eq, readOffset_eq, lower]
  simp only [rest_cursor, plus, minus, advance_cursor]
  refine ite_result rfl (ite_result ?_ (ite_result ?_ rfl))
  · exact disguise.readParts_cursor style .positive place
  · exact disguise.readParts_cursor style .negative place

theorem read_offset (style : OffsetStyle) (place : Cursor) (bucket : Bucket) :
    style.read (disguise.cursor place) bucket =
      result disguise.fault disguise.taken (style.read place bucket) := by
  unfold OffsetStyle.read
  exact bind_result (disguise.readOffset_cursor style place) fun _ => rfl

end Offsets

/-! ## Numbers -/

section Numbers

variable {culture : Culture} (disguise : Disguise culture)

theorem signBefore?_text (chars : List Char) :
    NumberField.signBefore? culture (disguise.text chars) =
      NumberField.signBefore? culture chars := by
  simp only [NumberField.signBefore?, startsWithCaseless_text, drop_text, startsWithDigit_text]

theorem millisAfter?_text (chars : List Char) :
    NumberField.millisAfter? culture (disguise.text chars) =
      NumberField.millisAfter? culture chars := by
  have kept : ∀ separator ∈ [".", ",", culture.decimalSeparator].map String.toList,
      ∀ e ∈ separator, ∀ c, disguise.replace c = e ↔ c = e := by
    have mark {e : Char} (other : e.isAlpha = false) (exact : List Char) (only : exact = [e]) :
        ∀ e ∈ exact, ∀ c, disguise.replace c = e ↔ c = e := by
      subst only
      exact List.forall_mem_singleton.mpr (disguise.replace_eq_iff other)
    refine List.forall_mem_cons.mpr ⟨mark (e := '.') rfl _ rfl, ?_⟩
    refine List.forall_mem_cons.mpr ⟨mark (e := ',') rfl _ rfl, ?_⟩
    exact List.forall_mem_singleton.mpr disguise.decimal_replace
  have found : ([".", ",", culture.decimalSeparator].map String.toList).find?
        (fun separator => separator ≠ [] ∧ separator.isPrefixOf (disguise.text chars)) =
      ([".", ",", culture.decimalSeparator].map String.toList).find?
        (fun separator => separator ≠ [] ∧ separator.isPrefixOf chars) :=
    List.find?_congr fun separator member => by
      rw [disguise.isPrefixOf_text (kept separator member)]
  unfold NumberField.millisAfter?
  simp only [found, drop_text, leadingDigits_text]

theorem readNumeral_cursor (number : NumberField) (required : Bool) (before? : Option Nat)
    (start : Cursor) :
    number.readNumeral culture required before? (disguise.cursor start) =
      result (Option.map disguise.fault) id
        (number.readNumeral culture required before? start) := by
  unfold NumberField.readNumeral
  simp only [rest_cursor, signBefore?_text, advance_cursor]
  refine ite_result rfl ?_
  generalize Option.getD _ (false, 0) = sign
  obtain ⟨negative, signLength⟩ := sign
  cases before?
  all_goals
    simp only [take_text, leadingDigits_text, drop_text, startsWithDigit_text, millisAfter?_text]
    refine ite_result ?_ (ite_result rfl (ite_result rfl rfl))
    cases required <;> rfl

end Numbers

/-- Why a number is not there, in disguise. -/
def interruption (disguise : Disguise settings.culture) :
    NumberField.Interruption → NumberField.Interruption
  | .absent => .absent
  | .failed fault bucket => .failed (disguise.fault fault) bucket

theorem read_number (disguise : Disguise settings.culture) (number : NumberField) (start : Cursor)
    (bucket : Bucket) :
    number.read settings (disguise.cursor start) bucket =
      result disguise.interruption disguise.taken (number.read settings start bucket) := by
  unfold NumberField.read
  simp -zeta only [rest_cursor, text_eq_nil_iff, skipAffix?_cursor]
  refine ite_result (ite_result rfl rfl) ?_
  dsimp -zeta only
  -- What comes behind the leading affix is one function of the place, and both texts go on with it.
  extract_lets behindLeading
  have afterLeading : ∀ numberStart required,
      behindLeading (disguise.cursor numberStart, required) =
        result disguise.interruption disguise.taken (behindLeading (numberStart, required)) := by
    intro numberStart required
    unfold behindLeading
    simp -zeta only [rest_cursor, distance?_text]
    extract_lets disguisedBehindScan behindScan
    have afterScan : ∀ before?, disguisedBehindScan before? =
        result disguise.interruption disguise.taken (behindScan before?) := by
      intro before?
      unfold disguisedBehindScan behindScan
      extract_lets required disguisedNumber number_
      have inNumber : disguisedNumber () =
          result disguise.interruption disguise.taken (number_ ()) := by
        unfold disguisedNumber number_
        refine bind_result (mapError_result
          (disguise.readNumeral_cursor number required before? numberStart) ?_) fun numeral => ?_
        · rintro (_ | fault) <;> rfl
        · simp -zeta only [id_eq, position_cursor, advance_cursor]
          extract_lets disguisedEnd disguisedStored numberEnd stored
          have afterNumeral : disguisedStored () =
              result disguise.interruption disguise.taken (stored ()) := by
            unfold disguisedStored stored
            refine bind_result (mapError_same _ fun _ => rfl) fun after => ?_
            have ends : disguisedEnd = disguise.cursor numberEnd := rfl
            rw [ends]
            split
            · rfl
            · next affix _ =>
                rw [skipAffix?_cursor]
                cases affix.skip? numberEnd <;> rfl
          split
          · exact ite_result rfl afterNumeral
          · exact afterNumeral
      split
      · exact inNumber
      · exact ite_result rfl inNumber
    split
    · exact afterScan none
    · refine ite_result (afterScan none) ?_
      split
      · exact afterScan (some _)
      · rfl
  split
  · exact afterLeading start _
  · next affix _ =>
      cases affix.skip? start with
      | some behind => exact afterLeading behind true
      | none => cases number.isRequired <;> rfl

theorem parse_number (disguise : Disguise settings.culture) (number : NumberField) (place : Cursor)
    (state : ParseState) :
    number.parse settings (disguise.cursor place) (disguise.state state) =
      disguise.ending (number.parse settings place state) := by
  have same : (disguise.state state).bucket = state.bucket := rfl
  unfold NumberField.parse
  rw [same, read_number]
  match number.read settings place state.bucket with
  | .ok _ => rfl
  | .error .absent => rfl
  | .error (.failed fault after) => exact disguise.fail_state { state with bucket := after } fault

end ChronoText.Disguise
