import ChronoText.Proofs.Parsing.Numbers

/-! Fixed text, fractions of a second and offsets that are read back. Fixed text and fractions have
a length of their own, whatever follows. An offset without seconds ends where no further pair of
digits follows it. -/

set_option autoImplicit false

namespace ChronoText

open Text (IsZeroDigit)

/-- Fixed text is taken as it was printed, unless blank characters of any number stand for it. -/
theorem Literal.readsBack {settings : ParseSettings} {context : PrintContext}
    (same : settings.culture = context.culture) (literal : Literal)
    (exact : settings.styles.innerBlank = false) (rest : List Char) :
    Element.ReadsBack settings context rest (.literal literal) id := by
  intro position state
  have found := Cursor.skip?_append position (literal.resolve context.culture) rest
  simp only [Element.parse, Element.print, Literal.print, Literal.read, exact, same, found,
    Bool.false_and, Bool.false_eq_true, if_false]
  rfl

/-- A fraction of a second is taken up to its width or to the end of the digits, and digits that are
not there count as zeros. -/
theorem FractionField.read_digits (settings : ParseSettings) (fraction : FractionField)
    (zeroDigit : IsZeroDigit settings.culture.zeroDigit)
    {digits : List Nat} (small : ∀ digit ∈ digits, digit < 10) (given : digits ≠ [])
    (fits : digits.length ≤ fraction.digits) (rest : List Char)
    (stop : fraction.digits ≤ digits.length ∨
      Text.startsWithDigit settings.culture.zeroDigit rest = false)
    (position : Nat) (bucket : Bucket) :
    let text := digits.map (Text.digitChar settings.culture.zeroDigit)
    fraction.read settings ⟨position, text ++ rest⟩ bucket =
      .ok (⟨position + Text.utf8Length text, rest⟩,
        bucket.setField .nanoOfSecond
          (Text.valueOfDigits digits * 10 ^ (9 - digits.length) : Nat)) := by
  intro text
  have taken := Text.leadingDigits_take_append zeroDigit small fits stop
  have advanced := Cursor.advance_append position text rest
  rw [List.length_map] at advanced
  rw [FractionField.read, taken]
  dsimp only
  rw [if_neg given, advanced]
  rfl

/-- A fraction of a second is taken to its width, and the digits that were cut off are lost. -/
theorem FractionField.readsBack {settings : ParseSettings} {context : PrintContext}
    (digits : IsZeroDigit context.culture.zeroDigit) (same : settings.culture = context.culture)
    {fraction : FractionField} (positive : 0 < fraction.digits) (few : fraction.digits ≤ 9)
    {nanosecond : Nat} (shown : context.fieldValue? .nanoOfSecond = some (nanosecond : Int))
    (small : nanosecond < 10 ^ 9) (rest : List Char) :
    Element.ReadsBack settings context rest (.fraction fraction)
      (·.setField .nanoOfSecond
        (nanosecond / 10 ^ (9 - fraction.digits) * 10 ^ (9 - fraction.digits) : Nat)) := by
  intro position state
  let shownDigits := nanosecond / 10 ^ (9 - fraction.digits)
  have split : 10 ^ fraction.digits * 10 ^ (9 - fraction.digits) = 10 ^ 9 := by
    rw [← Nat.pow_add, Nat.add_sub_cancel' few]
  have width : Text.digitCount shownDigits ≤ fraction.digits := by
    refine Text.digitCount_le positive (Nat.div_lt_of_lt_mul ?_)
    rwa [Nat.mul_comm, split]
  have count : (Text.paddedDigits fraction.digits shownDigits).length = fraction.digits := by
    rw [Text.length_paddedDigits, Nat.max_eq_left width]
  have text : Element.print context (.fraction fraction) =
      (Text.paddedDigits fraction.digits shownDigits).map
        (Text.digitChar context.culture.zeroDigit) := by
    rw [← Text.padded_eq_map]
    simp only [Element.print, FractionField.print, shown, Option.getD_some, Int.natAbs_natCast]
    rfl
  have read := read_digits settings fraction (same ▸ digits)
    (Text.paddedDigits_lt fraction.digits shownDigits) (Text.paddedDigits_ne_nil _ _) count.le
    rest (.inl count.ge) position state.bucket
  rw [count, Text.valueOfDigits_paddedDigits, same] at read
  rw [Element.parse, text, read]
  rfl

/-! ## Offsets -/

namespace Offset

def renderParts (separator : Option Char) (offset : Offset) : List Char :=
  let part (value : Nat) := separator.toList ++ Text.padded '0' 2 value
  Text.padded '0' 2 offset.components.1 ++ (part offset.components.2.1 ++
    if offset.components.2.2 = 0 then [] else part offset.components.2.2)

theorem render_eq (separator : Option Char) (offset : Offset) :
    offset.render separator =
      (if offset.seconds < 0 then '-' else '+') :: offset.renderParts separator := by
  have negative : offset.sign = .negative ↔ offset.seconds < 0 := by
    unfold sign Sign.ofInt
    split
    · simp only [reduceCtorEq, false_iff]
      omega
    · split
      · simp only [reduceCtorEq, false_iff]
        omega
      · simp only [true_iff]
        omega
  simp only [render, renderParts, negative, List.cons_append, List.append_assoc]

theorem components_lt (offset : Offset) :
    offset.components.1 < 100 ∧ offset.components.2.1 < 60 ∧ offset.components.2.2 < 60 := by
  have least := offset.seconds_ge
  have greatest := offset.seconds_le
  simp only [components]
  omega

theorem ofComponents_components (offset : Offset) {sign : Sign}
    (signed : sign.factor = if offset.seconds < 0 then -1 else 1) :
    ofComponents sign offset.components.1 offset.components.2.1 offset.components.2.2 =
      .ok offset := by
  obtain ⟨_, minutes, seconds⟩ := offset.components_lt
  have total : ((offset.components.1 * 3600 + offset.components.2.1 * 60
      + offset.components.2.2 : Nat) : Int) * sign.factor = offset.seconds := by
    rw [signed]
    simp only [components]
    split <;> omega
  rw [ofComponents, if_neg (by omega), total, ofSeconds,
    dif_pos ⟨offset.seconds_ge, offset.seconds_le⟩]
  rfl

end Offset

namespace OffsetStyle

theorem twoDigits?_padded {value : Nat} (small : value < 100) (rest : List Char) :
    twoDigits? (Text.padded '0' 2 value ++ rest) = some value := by
  have digit : ∀ digit < 10, (Text.digitChar '0' digit).isDigit = true ∧
      (Text.digitChar '0' digit).toNat - '0'.toNat = digit := by decide
  obtain ⟨tens, tensValue⟩ := digit (value / 10) (by omega)
  obtain ⟨ones, onesValue⟩ := digit (value % 10) (by omega)
  rw [Text.padded_eq_map, Text.paddedDigits_two small]
  simp only [List.map_cons, List.map_nil, List.cons_append, List.nil_append, twoDigits?, tens, ones,
    tensValue, onesValue, Bool.and_true, if_true, Option.some.injEq]
  omega

theorem length_padded_two {value : Nat} (small : value < 100) :
    (Text.padded '0' 2 value).length = 2 := by
  rw [Text.padded_eq_map, Text.paddedDigits_two small]
  rfl

theorem twoDigits_padded {value : Nat} (small : value < 100) (position : Nat) (rest : List Char) :
    twoDigits ⟨position, Text.padded '0' 2 value ++ rest⟩ =
      .ok (value, ⟨position + Text.utf8Length (Text.padded '0' 2 value), rest⟩) := by
  have advanced := Cursor.advance_append position (Text.padded '0' 2 value) rest
  rw [length_padded_two small] at advanced
  simp only [twoDigits, twoDigits?_padded small, advanced]
  rfl

theorem skipSeparator_separator (style : OffsetStyle) (position : Nat) (rest : List Char) :
    style.skipSeparator ⟨position, style.separator?.toList ++ rest⟩ =
      .ok ⟨position + Text.utf8Length style.separator?.toList, rest⟩ := by
  cases style <;> rfl

/-- The seconds that are read behind an offset that ends without any. -/
def secondsBehind? (style : OffsetStyle) (rest : List Char) : Option Nat :=
  match style.separator? with
  | none => twoDigits? rest
  | some separator => if rest.head? = some separator then twoDigits? (rest.drop 1) else none

theorem optionalSeconds_none {style : OffsetStyle} {rest : List Char}
    (stop : style.secondsBehind? rest = none) (position : Nat) :
    style.optionalSeconds ⟨position, rest⟩ = (0, ⟨position, rest⟩) := by
  cases style with
  | basic =>
      have stop : twoDigits? rest = none := stop
      simp only [optionalSeconds, skipSeparator, separator?, pure, Except.pure, stop]
  | extended =>
      simp only [secondsBehind?, separator?] at stop
      by_cases continued : rest.head? = some ':'
      · rw [if_pos continued] at stop
        simp only [optionalSeconds, skipSeparator, separator?, continued, if_true, pure,
          Except.pure, Cursor.rest_advance, stop]
      · simp only [optionalSeconds, skipSeparator, separator?, continued, if_false, throw,
          throwThe, MonadExceptOf.throw]

theorem optionalSeconds_some (style : OffsetStyle) {seconds : Nat} (small : seconds < 100)
    (position : Nat) (rest : List Char) :
    style.optionalSeconds
        ⟨position, style.separator?.toList ++ (Text.padded '0' 2 seconds ++ rest)⟩ =
      (seconds, ⟨position + Text.utf8Length style.separator?.toList
        + Text.utf8Length (Text.padded '0' 2 seconds), rest⟩) := by
  have advanced := Cursor.advance_append (position + Text.utf8Length style.separator?.toList)
    (Text.padded '0' 2 seconds) rest
  rw [length_padded_two small] at advanced
  simp only [optionalSeconds, skipSeparator_separator, twoDigits?_padded small, advanced]

/-- The seconds of an offset are read where they were printed, and not where they are zero. -/
theorem optionalSeconds_components {style : OffsetStyle} {offset : Offset} {rest : List Char}
    (stop : offset.components.2.2 ≠ 0 ∨ style.secondsBehind? rest = none) (position : Nat) :
    let text := if offset.components.2.2 = 0 then []
      else style.separator?.toList ++ Text.padded '0' 2 offset.components.2.2
    style.optionalSeconds ⟨position, text ++ rest⟩ =
      (offset.components.2.2, ⟨position + Text.utf8Length text, rest⟩) := by
  obtain ⟨_, _, small⟩ := offset.components_lt
  by_cases zero : offset.components.2.2 = 0
  · have none := optionalSeconds_none (stop.resolve_left (absurd zero)) position
    simp only [zero, if_true, List.nil_append, none, Text.utf8Length_nil, Nat.add_zero]
  · have found := optionalSeconds_some style (by omega : offset.components.2.2 < 100) position rest
    simp only [zero, if_false, List.append_assoc, found, Text.utf8Length_append, Nat.add_assoc]

theorem readParts_components {style : OffsetStyle} {offset : Offset} {sign : Sign}
    (signed : sign.factor = if offset.seconds < 0 then -1 else 1) (position : Nat) (c : Char)
    {rest : List Char}
    (stop : offset.components.2.2 ≠ 0 ∨ style.secondsBehind? rest = none) :
    style.readParts sign ⟨position, c :: (offset.renderParts style.separator? ++ rest)⟩ =
      .ok (offset, ⟨position + Text.utf8Length (c :: offset.renderParts style.separator?),
        rest⟩) := by
  obtain ⟨hours, minutes, _⟩ := offset.components_lt
  have behindSign (body : List Char) :
      (⟨position, c :: body⟩ : Cursor).advance 1 = ⟨position + c.utf8Size, body⟩ :=
    Cursor.advance_append position [c] body
  have readHours (place : Nat) (body : List Char) := twoDigits_padded hours place body
  have readMinutes (place : Nat) (body : List Char) :=
    twoDigits_padded (by omega : offset.components.2.1 < 100) place body
  have readSeconds := optionalSeconds_components stop
  simp only [readParts, Offset.renderParts, behindSign, List.append_assoc, readHours,
    skipSeparator_separator, readMinutes, readSeconds, Offset.ofComponents_components offset signed,
    bind, Except.bind, pure, Except.pure, Text.utf8Length_cons, Text.utf8Length_append,
    Nat.add_assoc]

/-- An offset reads back, unless further digits behind it pass for its seconds. -/
theorem readsBack {settings : ParseSettings} {context : PrintContext} {style : OffsetStyle}
    {offset : Offset} (shown : context.offset? = some offset) {rest : List Char}
    (stop : offset.components.2.2 ≠ 0 ∨ style.secondsBehind? rest = none) :
    Element.ReadsBack settings context rest (.offset style) (·.setOffset offset) := by
  intro position state
  have read : style.readOffset ⟨position, offset.render style.separator? ++ rest⟩ =
      .ok (offset, ⟨position + Text.utf8Length (offset.render style.separator?), rest⟩) := by
    rw [Offset.render_eq]
    by_cases negative : offset.seconds < 0
    · rw [if_pos negative]
      exact readParts_components (by rw [if_pos negative]; rfl) position '-' stop
    · rw [if_neg negative]
      exact readParts_components (by rw [if_neg negative]; rfl) position '+' stop
  simp only [Element.parse, Element.print, OffsetStyle.print, shown, OffsetStyle.read, read, bind,
    Except.bind]
  rfl

end OffsetStyle

end ChronoText
