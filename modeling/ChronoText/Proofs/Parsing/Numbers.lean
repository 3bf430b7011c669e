import ChronoText.Proofs.Parsing.Legible
import ChronoText.Proofs.Text.Caseless

/-! Numbers that are read back. A printed number is a sign, digits and perhaps a fraction. Reading
finds the sign only in front of a digit, takes the digits up to the first other character or to the
width of the number, and denotes the number that was printed. -/

set_option autoImplicit false

namespace ChronoText

open Text (IsZeroDigit)

/-- The culture writes numbers with the ASCII signs, a point, and digits that no ASCII character is
taken for. -/
structure Culture.WritesPlainNumbers (culture : Culture) : Prop where
  digits : IsZeroDigit culture.zeroDigit
  negativeSign : culture.negativeSign = "-"
  positiveSign : culture.positiveSign = "+"
  decimalSeparator : culture.decimalSeparator = "."

theorem Culture.invariant_writesPlainNumbers : invariant.WritesPlainNumbers :=
  ⟨.inl rfl, rfl, rfl, rfl⟩

namespace NumberField

/-! ## Signs -/

def signText (negative : Bool) : List Char :=
  if negative then ['-'] else []

theorem Culture.WritesPlainNumbers.signText_eq {culture : Culture}
    (plain : culture.WritesPlainNumbers) (negative : Bool) :
    (if negative then culture.negativeSign.toList else []) = signText negative := by
  rw [plain.negativeSign]
  rfl

/-- Digits are not taken for a sign, and the sign in front of them is found. -/
theorem signBefore?_signText {culture : Culture} (plain : culture.WritesPlainNumbers)
    (negative : Bool) {body : List Char}
    (start : Text.startsWithDigit culture.zeroDigit body = true) :
    signBefore? culture (signText negative ++ body) = if negative then some (true, 1) else none := by
  have minus : "-".toList = ['-'] := rfl
  have plus : "+".toList = ['+'] := rfl
  cases negative with
  | true =>
      have found : Text.startsWithCaseless ['-'] ('-' :: body) = true :=
        Text.startsWithCaseless_append ['-'] body
      simp [signBefore?, plain.negativeSign, signText, minus, found, start]
  | false =>
      have noMinus : Text.startsWithCaseless ['-'] body = false :=
        Text.startsWithCaseless_sign plain.digits (by decide) (by decide) start
      have noPlus : Text.startsWithCaseless ['+'] body = false :=
        Text.startsWithCaseless_sign plain.digits (by decide) (by decide) start
      simp [signBefore?, plain.negativeSign, plain.positiveSign, signText, minus, plus, noMinus,
        noPlus]

/-! ## Numerals -/

def digitLimit (number : NumberField) : Nat :=
  if number.fixedWidth then number.minDigits else number.maxParsedDigits

/-- The part of a text behind the sign in which a numeral is looked for. -/
def window (before? : Option Nat) (signLength : Nat) (body : List Char) : List Char :=
  match before? with
  | some characters => body.take (characters - signLength)
  | none => body

/-- Digits behind a sign, or behind none, are read as a numeral, with the fraction that stands behind
them in the window. -/
theorem readNumeral_digits {culture : Culture} (zeroDigit : IsZeroDigit culture.zeroDigit)
    (number : NumberField) (required : Bool) (before? : Option Nat) (position : Nat)
    {digits : List Nat} (small : ∀ digit ∈ digits, digit < 10) (given : digits ≠ [])
    {sign? : Option (Bool × Nat)} {negative : Bool} {sign body : List Char} (behind : List Char)
    (found : (if number.selector.isSigned then signBefore? culture (sign ++ body) else none) = sign?)
    (taken : sign?.getD (false, 0) = (negative, sign.length))
    (accepted : number.rejectSigned = true → sign? = none)
    (shape : window before? sign.length body =
      digits.map (Text.digitChar culture.zeroDigit) ++ behind)
    (fits : digits.length ≤ number.digitLimit)
    (least : number.fixedWidth = true → number.minDigits ≤ digits.length)
    (stop : Text.startsWithDigit culture.zeroDigit behind = false ∨
      (number.fixedWidth = true ∧ number.selector.periodField? = none)) :
    number.readNumeral culture required before? ⟨position, sign ++ body⟩ =
      let fraction? := if number.optionalMillis then millisAfter? culture behind else none
      .ok
        { negative
          digits
          millis? := fraction?.map (·.1)
          length := sign.length + digits.length + (fraction?.map (·.2)).getD 0 } := by
  have kept : (number.rejectSigned && sign?.isSome) = false := by
    cases reject : number.rejectSigned with
    | false => rfl
    | true => rw [accepted reject]; rfl
  have rest : ((⟨position, sign ++ body⟩ : Cursor).advance sign.length).rest = body := by
    rw [Cursor.advance_append]
  have full : number.fixedWidth = true → number.digitLimit ≤ digits.length := by
    intro fixed
    rw [digitLimit, if_pos fixed]
    exact least fixed
  have read := Text.leadingDigits_take_append zeroDigit small fits
    (stop.symm.imp_left fun fixed => full fixed.1)
  have dropped : (digits.map (Text.digitChar culture.zeroDigit) ++ behind).drop digits.length =
      behind := by
    rw [← List.length_map (Text.digitChar culture.zeroDigit), List.drop_left]
  have wide : (number.fixedWidth && decide (digits.length < number.minDigits)) = false := by
    cases fixed : number.fixedWidth with
    | false => rfl
    | true =>
        have enough := least fixed
        rw [Bool.true_and, decide_eq_false_iff_not]
        omega
  have within (full : Bool) : (number.selector.periodField?.isSome && full
      && Text.startsWithDigit culture.zeroDigit behind) = false := by
    rcases stop with stop | ⟨_, dateTime⟩
    · rw [stop, Bool.and_false]
    · rw [dateTime, Option.isSome_none, Bool.false_and, Bool.false_and]
  unfold digitLimit at read
  unfold readNumeral
  cases before? with
  | none =>
      subst shape
      simp only [bind, Except.bind, pure, Except.pure, found, kept, taken, rest, read, dropped, given,
        wide, within, Bool.false_eq_true, if_false]
  | some characters =>
      rw [window] at shape
      simp only [bind, Except.bind, pure, Except.pure, found, kept, taken, rest, shape, read, dropped,
        given, wide, within, Bool.false_eq_true, if_false]

/-- Behind a sign that is found, printed digits are read as a numeral, with the fraction that stands
behind them in the window. -/
theorem readNumeral_signed {culture : Culture} (zeroDigit : IsZeroDigit culture.zeroDigit)
    (number : NumberField) (required : Bool) (before? : Option Nat) (position value : Nat)
    {negative : Bool} {sign body : List Char} (behind : List Char)
    (found : signBefore? culture (sign ++ body) = if negative then some (true, sign.length) else none)
    (unsigned : negative = false → sign = [])
    (signed : negative = true → number.selector.isSigned = true)
    (accepted : number.rejectSigned = true → negative = false)
    (shape : window before? sign.length body =
      Text.padded culture.zeroDigit number.minDigits value ++ behind)
    (fits : Text.digitCount value ≤ number.digitLimit)
    (least : number.minDigits ≤ number.digitLimit)
    (stop : Text.startsWithDigit culture.zeroDigit behind = false ∨
      (number.fixedWidth = true ∧ number.selector.periodField? = none)) :
    number.readNumeral culture required before? ⟨position, sign ++ body⟩ =
      let fraction? := if number.optionalMillis then millisAfter? culture behind else none
      let digits := Text.paddedDigits number.minDigits value
      .ok
        { negative
          digits
          millis? := fraction?.map (·.1)
          length := sign.length + digits.length + (fraction?.map (·.2)).getD 0 } := by
  have own : (if number.selector.isSigned = true then signBefore? culture (sign ++ body) else none) =
      if negative then some (true, sign.length) else none := by
    rw [found]
    cases negative with
    | true => rw [if_pos (signed rfl)]
    | false => exact ite_self _
  have taken : (if negative then some (true, sign.length) else none).getD (false, 0) =
      (negative, sign.length) := by
    cases negative with
    | true => rfl
    | false => rw [unsigned rfl]; rfl
  rw [Text.padded_eq_map] at shape
  refine readNumeral_digits zeroDigit number required before? position
    (Text.paddedDigits_lt number.minDigits value) (Text.paddedDigits_ne_nil _ _) behind own taken
    (fun reject => if_neg (accepted reject ▸ Bool.false_ne_true)) shape ?_ (fun _ => ?_) stop
  · rw [Text.length_paddedDigits]
    exact Nat.max_le.mpr ⟨least, fits⟩
  · rw [Text.length_paddedDigits]
    exact Nat.le_max_left _ _

/-- A number that was printed with plain signs is read as a numeral. -/
theorem readNumeral_printed {culture : Culture} (plain : culture.WritesPlainNumbers)
    (number : NumberField) (required : Bool) (before? : Option Nat) (position value : Nat)
    (negative : Bool) (behind : List Char) {body : List Char}
    (signed : negative = true → number.selector.isSigned = true)
    (accepted : number.rejectSigned = true → negative = false)
    (start : Text.startsWithDigit culture.zeroDigit body = true)
    (shape : window before? (signText negative).length body =
      Text.padded culture.zeroDigit number.minDigits value ++ behind)
    (fits : Text.digitCount value ≤ number.digitLimit)
    (least : number.minDigits ≤ number.digitLimit)
    (stop : Text.startsWithDigit culture.zeroDigit behind = false ∨
      (number.fixedWidth = true ∧ number.selector.periodField? = none)) :
    number.readNumeral culture required before? ⟨position, signText negative ++ body⟩ =
      let fraction? := if number.optionalMillis then millisAfter? culture behind else none
      let digits := Text.paddedDigits number.minDigits value
      .ok
        { negative
          digits
          millis? := fraction?.map (·.1)
          length := (signText negative).length + digits.length + (fraction?.map (·.2)).getD 0 } := by
  have found : signBefore? culture (signText negative ++ body) =
      if negative then some (true, (signText negative).length) else none := by
    rw [signBefore?_signText plain negative start]
    cases negative <;> rfl
  have unsigned : negative = false → signText negative = [] := by
    rintro rfl
    rfl
  exact readNumeral_signed plain.digits number required before? position value behind found unsigned
    signed accepted shape fits least stop

/-! ## Components of a date-time -/

/-- A numeral that a component admits is taken with the whole of its text. -/
theorem parse_of_numeral {settings : ParseSettings} {field : DateTimeField}
    {minDigits maxDigits : Nat} {fixedWidth : Bool} {position : Nat} {text rest : List Char}
    {numeral : Numeral} {value : Int} (given : text ≠ [])
    (read : NumberField.readNumeral
      { NumberField.ofDateTime field minDigits maxDigits with fixedWidth } settings.culture true none
      ⟨position, text ++ rest⟩ = .ok numeral)
    (whole : numeral.length = text.length) (denoted : numeral.value = value)
    (admitted : field.admits value = true) (state : ParseState) :
    Element.parse settings ⟨position, text ++ rest⟩ state
        (.number { NumberField.ofDateTime field minDigits maxDigits with fixedWidth }) =
      (.advanced ⟨position + Text.utf8Length text, rest⟩,
        { state with bucket := state.bucket.setField field value }) := by
  have some : text ++ rest ≠ [] := List.append_ne_nil_of_left_ne_nil given _
  have taken : NumberField.read { NumberField.ofDateTime field minDigits maxDigits with fixedWidth }
        settings ⟨position, text ++ rest⟩ state.bucket =
      .ok (⟨position + Text.utf8Length text, rest⟩, state.bucket.setField field value) := by
    rw [← Cursor.advance_append, ← whole]
    simp only [NumberField.ofDateTime] at read ⊢
    simp only [NumberField.read, some, isRequired, FieldSelector.periodField?, read, store, denoted,
      admitted, bind, Except.bind, pure, Except.pure, Except.mapError, if_false, if_true, Option.isNone_none,
      Option.isSome_none, Bool.true_or, Bool.or_false]
  rw [Element.parse, NumberField.parse, taken]

/-- A component of a date-time reads back where its digits end, at its width or at the end of the
digits. -/
theorem readsBack_dateTime {settings : ParseSettings} {context : PrintContext}
    (plain : context.culture.WritesPlainNumbers) (same : settings.culture = context.culture)
    {field : DateTimeField} {value : Int} {minDigits maxDigits : Nat} {fixedWidth : Bool}
    {rest : List Char} (shown : context.fieldValue? field = some value)
    (signed : value < 0 → field.isSigned = true) (admitted : field.admits value = true)
    (readable : value.natAbs ≤ Text.largestRead)
    (fits : Text.digitCount value.natAbs ≤
      if fixedWidth then minDigits else max maxDigits minDigits)
    (stop : fixedWidth = true ∨ Text.startsWithDigit context.culture.zeroDigit rest = false) :
    Element.ReadsBack settings context rest
      (.number { NumberField.ofDateTime field minDigits maxDigits with fixedWidth })
      (·.setField field value) := by
  intro position state
  let number : NumberField := { NumberField.ofDateTime field minDigits maxDigits with fixedWidth }
  let negative := decide (value < 0)
  let digits := Text.padded context.culture.zeroDigit minDigits value.natAbs
  have text : Element.print context (.number number) = signText negative ++ digits := by
    simp only [Element.print, NumberField.print, printed?, number, NumberField.ofDateTime, shown,
      Option.map_some, PrintedNumber.ofInt, render, affixText,
      Culture.WritesPlainNumbers.signText_eq plain, negative, digits, List.nil_append,
      List.append_nil]
  have start : Text.startsWithDigit context.culture.zeroDigit (digits ++ rest) = true :=
    Text.startsWithDigit_padded plain.digits _ _ _
  have read := readNumeral_printed plain number true none position value.natAbs negative rest
    (fun below => signed (of_decide_eq_true below))
    (fun reject => absurd reject Bool.false_ne_true) start rfl fits
    (by
      simp only [digitLimit, number, NumberField.ofDateTime]
      split <;> omega)
    (stop.symm.imp_right fun fixed => ⟨fixed, rfl⟩)
  have given : signText negative ++ digits ≠ [] :=
    List.append_ne_nil_of_right_ne_nil _ (Text.padded_ne_nil _ _ _)
  have denoted (length : Nat) : Numeral.value
      ⟨negative, Text.paddedDigits minDigits value.natAbs, none, length⟩ = value := by
    simp only [Numeral.value, Text.denoted_paddedDigits minDigits readable, negative,
      decide_eq_true_eq]
    split <;> omega
  have length : (signText negative).length + (Text.paddedDigits minDigits value.natAbs).length =
      (signText negative ++ digits).length := by
    rw [List.length_append, Text.length_padded, Text.length_paddedDigits]
  rw [← List.append_assoc, ← same] at read
  rw [text]
  exact parse_of_numeral given read length (denoted _) admitted state

end NumberField

end ChronoText
