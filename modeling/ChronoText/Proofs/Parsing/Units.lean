import ChronoText.Proofs.Parsing.Affixes
import ChronoText.Proofs.Parsing.Numbers

/-! Units of periods that are read back. A unit that was printed is recognised by its affix, which
stands right behind its number; one that was not printed is found missing because another affix, or
nothing, stands behind the next number. -/

set_option autoImplicit false

namespace ChronoText

open Text (paddedDigits)

/-- A unit with an affix behind its number that is printed where it is not zero, and as the
smallest unit of a period that is all zero. -/
def NumberField.ofUnit (unit : PeriodField) (present : PeriodFieldSet) (affix : Affix)
    (optionalMillis : Bool) : NumberField :=
  { selector := .period unit
    minDigits := 1
    maxParsedDigits := 10
    zeroPolicy := .rarelyLast
    present
    trailing := some affix
    optionalMillis }

/-! ## The text of a number -/

namespace PrintedNumber

def value (printed : PrintedNumber) : Int :=
  if printed.negative then -printed.whole else printed.whole

def signedMillis (printed : PrintedNumber) (millis : Nat) : Int :=
  if printed.negative then -millis else millis

def fractionText (printed : PrintedNumber) : List Char :=
  match printed.millis? with
  | some millis => '.' :: Text.padded '0' 3 millis
  | none => []

/-- The number without its affix, in the invariant culture. -/
def text (printed : PrintedNumber) : List Char :=
  NumberField.signText printed.negative ++ (Text.padded '0' 1 printed.whole ++ printed.fractionText)

structure IsReadable (printed : PrintedNumber) (optionalMillis : Bool) : Prop where
  whole : printed.whole < 10 ^ 10
  millis : ∀ millis ∈ printed.millis?, millis < 1000
  allowed : printed.millis?.isSome = true → optionalMillis = true

def numeral (printed : PrintedNumber) : NumberField.Numeral where
  negative := printed.negative
  digits := paddedDigits 1 printed.whole
  millis? := printed.millis?
  length := printed.text.length

variable {printed : PrintedNumber} {optionalMillis : Bool}

theorem isNumberCharacter_padded (minDigits number : Nat) :
    ∀ c ∈ Text.padded '0' minDigits number, Affix.isNumberCharacter c = true := by
  have digits : ∀ digit < 10, Affix.isNumberCharacter (Text.digitChar '0' digit) = true := by
    decide
  intro c member
  rw [Text.padded_eq_map] at member
  obtain ⟨digit, digitMember, rfl⟩ := List.mem_map.mp member
  exact digits digit (Text.paddedDigits_lt minDigits number digit digitMember)

theorem isNumberCharacter_text (printed : PrintedNumber) :
    ∀ c ∈ printed.text, Affix.isNumberCharacter c = true := by
  intro c member
  rcases List.mem_append.mp member with sign | body
  · unfold NumberField.signText at sign
    split at sign
    · rw [List.mem_singleton.mp sign]
      rfl
    · cases sign
  rcases List.mem_append.mp body with digit | fraction
  · exact isNumberCharacter_padded 1 printed.whole c digit
  · unfold fractionText at fraction
    split at fraction
    · rcases List.mem_cons.mp fraction with rfl | digit
      · rfl
      · exact isNumberCharacter_padded 3 _ c digit
    · cases fraction

theorem text_ne_nil (printed : PrintedNumber) : printed.text ≠ [] := by
  refine List.append_ne_nil_of_right_ne_nil _ (List.append_ne_nil_of_left_ne_nil ?_ _)
  exact Text.padded_ne_nil _ _ _

theorem value_numeral (readable : printed.IsReadable optionalMillis) :
    printed.numeral.value = printed.value := by
  have small := readable.whole
  have whole : Text.denoted (paddedDigits 1 printed.whole) = printed.whole := by
    apply Text.denoted_paddedDigits
    unfold Text.largestRead
    omega
  simp only [NumberField.Numeral.value, numeral, value, whole]

end PrintedNumber

namespace NumberField

variable {unit : PeriodField} {present : PeriodFieldSet} {affix : Affix} {optionalMillis : Bool}
  {printed : PrintedNumber}

/-- A number that is printed has a text. -/
theorem print_eq_nil_iff {number : NumberField} {context : PrintContext} :
    number.print context = [] ↔ number.printed? context = none := by
  rw [NumberField.print]
  cases number.printed? context with
  | none => simp
  | some printed =>
      have some := Text.padded_ne_nil context.culture.zeroDigit number.minDigits printed.whole
      simp [NumberField.render, some]

/-- A number counts as a field if it has a text. -/
theorem fieldCount_eq_ite (number : NumberField) (context : PrintContext) :
    number.fieldCount context = if number.print context = [] then 0 else 1 := by
  rw [NumberField.fieldCount]
  simp only [print_eq_nil_iff]
  cases number.printed? context <;> rfl

theorem render_ofUnit (printed : PrintedNumber) :
    (ofUnit unit present affix optionalMillis).render .invariant printed =
      printed.text ++ (affix.textFor printed.affixNumber).toList := by
  have sign := Culture.WritesPlainNumbers.signText_eq Culture.invariant_writesPlainNumbers
    printed.negative
  rw [render, sign]
  simp only [ofUnit, affixText, PrintedNumber.text, PrintedNumber.fractionText, List.nil_append,
    List.append_assoc]
  cases printed.millis? <;> rfl

/-! ## Reading a number that was printed -/

theorem millisAfter?_separator {culture : Culture} (ascii : culture.zeroDigit = '0')
    {separator : Char} (known : separator = '.' ∨ separator = ',') {thousandths : Nat}
    (small : thousandths < 1000) :
    millisAfter? culture (separator :: Text.padded '0' 3 thousandths) = some (thousandths, 4) := by
  have three : Text.digitCount thousandths ≤ 3 := Text.digitCount_le (by decide) small
  have found : ([".", ",", culture.decimalSeparator].map String.toList).find?
      (fun text => text ≠ [] ∧ text.isPrefixOf (separator :: Text.padded '0' 3 thousandths)) =
        some [separator] := by
    rcases known with rfl | rfl <;> rfl
  have digits : Text.leadingDigits '0' (Text.padded '0' 3 thousandths) =
      paddedDigits 3 thousandths := by
    have stop : Text.startsWithDigit '0' [] = false := rfl
    have read := Text.leadingDigits_padded Text.isZeroDigit_ascii 3 thousandths stop
    rwa [List.append_nil] at read
  have length : (paddedDigits 3 thousandths).length = 3 := by
    rw [Text.length_paddedDigits]
    omega
  have kept : (paddedDigits 3 thousandths ++ [0, 0, 0]).take 3 = paddedDigits 3 thousandths :=
    List.take_left' length
  have value : (paddedDigits 3 thousandths).foldl (10 * · + ·) 0 = thousandths :=
    Text.valueOfDigits_paddedDigits 3 thousandths
  unfold millisAfter?
  simp only [found, ascii, List.length_singleton, List.drop_succ_cons, List.drop_zero, digits, kept,
    value, length, Text.paddedDigits_ne_nil, if_false]

theorem millisAfter?_fractionText (readable : printed.IsReadable optionalMillis) :
    (if optionalMillis then millisAfter? .invariant printed.fractionText else none) =
      printed.millis?.map fun millis => (millis, printed.fractionText.length) := by
  cases millis : printed.millis? with
  | none =>
      have nothing : printed.fractionText = [] := by
        rw [PrintedNumber.fractionText, millis]
      rw [nothing]
      split <;> rfl
  | some thousandths =>
      have small := readable.millis thousandths millis
      have three : Text.digitCount thousandths ≤ 3 := Text.digitCount_le (by decide) small
      have text : printed.fractionText = '.' :: Text.padded '0' 3 thousandths := by
        rw [PrintedNumber.fractionText, millis]
      have length : ('.' :: Text.padded '0' 3 thousandths).length = 4 := by
        rw [List.length_cons, Text.length_padded]
        omega
      rw [readable.allowed (millis ▸ rfl), if_pos rfl, text, millisAfter?_separator rfl (.inl rfl) small,
        Option.map_some, length]

theorem startsWithDigit_fractionText (printed : PrintedNumber) :
    Text.startsWithDigit '0' printed.fractionText = false := by
  unfold PrintedNumber.fractionText
  split <;> rfl

theorem readNumeral_ofUnit (readable : printed.IsReadable optionalMillis) (required : Bool)
    (position : Nat) (rest : List Char) :
    (ofUnit unit present affix optionalMillis).readNumeral .invariant required
        (some printed.text.length) ⟨position, printed.text ++ rest⟩ = .ok printed.numeral := by
  let body := Text.padded '0' 1 printed.whole ++ printed.fractionText
  have length : printed.text.length - (signText printed.negative).length = body.length := by
    rw [PrintedNumber.text, List.length_append, Nat.add_sub_cancel_left]
  have shape : window (some printed.text.length) (signText printed.negative).length (body ++ rest) =
      Text.padded '0' 1 printed.whole ++ printed.fractionText := by
    rw [window, length, List.take_left]
  have start : Text.startsWithDigit '0' (body ++ rest) = true := by
    rw [List.append_assoc]
    exact Text.startsWithDigit_padded Text.isZeroDigit_ascii _ _ _
  have limit : (ofUnit unit present affix optionalMillis).digitLimit = 10 := rfl
  have fits : Text.digitCount printed.whole ≤ 10 := Text.digitCount_le (by decide) readable.whole
  have read := readNumeral_printed Culture.invariant_writesPlainNumbers
    (ofUnit unit present affix optionalMillis) required (some printed.text.length) position
    printed.whole printed.negative printed.fractionText (fun _ => rfl)
    (fun reject => absurd reject Bool.false_ne_true) start shape (limit ▸ fits)
    (limit ▸ Nat.le_of_ble_eq_true rfl) (.inl (startsWithDigit_fractionText printed))
  have fraction : (if (ofUnit unit present affix optionalMillis).optionalMillis = true then
      millisAfter? .invariant printed.fractionText else none) =
        printed.millis?.map fun millis => (millis, printed.fractionText.length) :=
    millisAfter?_fractionText readable
  have digits : (paddedDigits 1 printed.whole).length =
      (Text.padded '0' 1 printed.whole).length := by
    rw [Text.length_paddedDigits, Text.length_padded]
  have text : printed.text ++ rest = signText printed.negative ++ (body ++ rest) := by
    rw [PrintedNumber.text, List.append_assoc]
  have total : (signText printed.negative).length + (paddedDigits 1 printed.whole).length
      + (printed.millis?.map fun _ => printed.fractionText.length).getD 0 =
        printed.text.length := by
    rw [PrintedNumber.text, List.length_append, List.length_append, digits, Nat.add_assoc]
    unfold PrintedNumber.fractionText
    cases printed.millis? <;> rfl
  rw [text, read]
  simp only [fraction, Option.map_map, Function.comp_def, Option.map_id', PrintedNumber.numeral,
    ← total]
  rfl

variable (unit present) in
/-- A unit that was printed is recognised by its affix, and its number is put into the bucket. -/
theorem read_ofUnit {settings : ParseSettings} (culture : settings.culture = .invariant)
    (readable : printed.IsReadable optionalMillis) (clear : affix.startsNoNumber = true)
    {rest : List Char} (behind : affix.ReadsBefore rest) (position : Nat) (bucket : Bucket) :
    let number := ofUnit unit present affix optionalMillis
    let text := number.render .invariant printed
    number.read settings ⟨position, text ++ rest⟩ bucket =
      match number.store settings.periodType printed.numeral bucket with
      | .ok after => .ok (⟨position + Text.utf8Length text, rest⟩, after)
      | .error (failure, after) => .error (.failed ⟨position, failure⟩ after) := by
  intro number text
  -- The affix ends the window in which the numeral is looked for, whatever digits come later.
  have found := Affix.distance?_own clear printed.isNumberCharacter_text printed.affixNumber rest
  have given : printed.text ++ ((affix.textFor printed.affixNumber).toList ++ rest) ≠ [] :=
    List.append_ne_nil_of_left_ne_nil printed.text_ne_nil _
  have taken : number.readNumeral .invariant true (some printed.text.length)
      ⟨position, printed.text ++ ((affix.textFor printed.affixNumber).toList ++ rest)⟩ =
        .ok printed.numeral :=
    readNumeral_ofUnit readable true position _
  have advanced := Cursor.advance_append position printed.text
    ((affix.textFor printed.affixNumber).toList ++ rest)
  have skipped := behind printed.affixNumber (position + Text.utf8Length printed.text)
  have length : printed.numeral.length = printed.text.length := rfl
  have shape : text = printed.text ++ (affix.textFor printed.affixNumber).toList :=
    render_ofUnit printed
  rw [shape, List.append_assoc, Text.utf8Length_append, ← Nat.add_assoc]
  cases stored : number.store settings.periodType printed.numeral bucket <;>
    simp only [number, ofUnit] at taken stored ⊢ <;>
    simp only [NumberField.read, given, isRequired, FieldSelector.periodField?, found, culture, taken,
      stored, bind, Except.bind, pure, Except.pure, throw, throwThe, MonadExceptOf.throw,
      Except.mapError, if_false, Option.isNone_some, Option.isSome_some, Bool.or_true, Bool.not_true,
      Bool.false_and, Bool.false_eq_true, decide_false, reduceCtorEq, Bool.or_self, length, advanced,
      skipped, ne_eq, not_true_eq_false]

theorem read_ofUnit_absent {settings : ParseSettings} {rest : List Char}
    (missing : affix.distance? rest = none) (position : Nat) (bucket : Bucket) :
    (ofUnit unit present affix optionalMillis).read settings ⟨position, rest⟩ bucket =
      .error .absent := by
  by_cases nothing : rest = []
  all_goals
    simp only [NumberField.read, ofUnit, nothing, isRequired, FieldSelector.periodField?, missing,
      bind, Except.bind, pure, Except.pure, throw, throwThe, MonadExceptOf.throw, if_true, if_false,
      Option.isNone_some, Bool.false_or, Bool.false_eq_true, decide_false, reduceCtorEq]

/-! ## What a number puts into the bucket -/

def putUnit (unit : PeriodField) (printed : PrintedNumber) (bucket : Bucket) : Bucket :=
  let stored := bucket.setPeriodField unit (.ofInt printed.value)
  match printed.millis? with
  | some millis => stored.setPeriodField .millis (.ofInt (printed.signedMillis millis))
  | none => stored

theorem storeUnit_ofInt {type : PeriodType} {field : PeriodField} (value : Int)
    (supported : value ≠ 0 → type.supports field = true) (bucket : Bucket) :
    storeUnit type bucket field (.ofInt value) = .ok (bucket.setPeriodField field (.ofInt value)) := by
  have allowed : ¬ (Int32.ofInt value ≠ 0 ∧ type.supports field = false) := by
    rintro ⟨other, unsupported⟩
    have zero : value = 0 := by
      by_contra notZero
      exact absurd (supported notZero) (by rw [unsupported]; exact Bool.false_ne_true)
    exact other (by rw [zero]; rfl)
  rw [storeUnit, if_neg allowed]
  rfl

/-- A numeral with what was printed is stored as that. -/
theorem store_printed {number : NumberField} (selector : number.selector = .period unit)
    {numeral : Numeral} (value : numeral.value = printed.value)
    (negative : numeral.negative = printed.negative) (read : numeral.millis? = printed.millis?)
    {type : PeriodType} (inRange : -2 ^ 31 ≤ printed.value ∧ printed.value < 2 ^ 31)
    (supported : printed.value ≠ 0 → type.supports unit = true)
    (millisSupported : ∀ millis ∈ printed.millis?, type.supports .millis = true) (bucket : Bucket) :
    number.store type numeral bucket = .ok (putUnit unit printed bucket) := by
  have within : ¬ (printed.value < -0x80000000 ∨ 0x80000000 ≤ printed.value) := by omega
  have first := storeUnit_ofInt printed.value supported bucket
  unfold store putUnit
  cases millis : printed.millis? with
  | none =>
      simp only [selector, value, within, if_false, first, read, millis, bind, Except.bind, pure,
        Except.pure, Except.mapError]
  | some thousandths =>
      have second := storeUnit_ofInt (printed.signedMillis thousandths)
        (fun _ => millisSupported thousandths millis)
        (bucket.setPeriodField unit (.ofInt printed.value))
      unfold PrintedNumber.signedMillis at second ⊢
      simp only [selector, value, within, if_false, first, read, negative, millis, second, bind,
        Except.bind, Except.mapError]

theorem store_ofUnit {type : PeriodType} (readable : printed.IsReadable optionalMillis)
    (inRange : -2 ^ 31 ≤ printed.value ∧ printed.value < 2 ^ 31)
    (supported : printed.value ≠ 0 → type.supports unit = true)
    (millisSupported : ∀ millis ∈ printed.millis?, type.supports .millis = true) (bucket : Bucket) :
    (ofUnit unit present affix optionalMillis).store type printed.numeral bucket =
      .ok (putUnit unit printed bucket) :=
  store_printed rfl (PrintedNumber.value_numeral readable) rfl rfl inRange supported millisSupported
    bucket

theorem store_ofUnit_outOfRange {type : PeriodType} (readable : printed.IsReadable optionalMillis)
    (outside : printed.value < -2 ^ 31 ∨ 2 ^ 31 ≤ printed.value) (bucket : Bucket) :
    (ofUnit unit present affix optionalMillis).store type printed.numeral bucket =
      .error ({ kind := .valueOutOfRange, params := [.integer printed.value, .text unit.name] },
        bucket) := by
  have value := PrintedNumber.value_numeral readable
  have beyond : printed.value < -0x80000000 ∨ 0x80000000 ≤ printed.value := by omega
  unfold store
  simp only [ofUnit, value, beyond, if_true, FieldSelector.name, bind, Except.bind, throw, throwThe,
    MonadExceptOf.throw]

end NumberField

/-! ## Elements -/

/-- The surroundings in which a period is printed in the invariant culture. -/
abbrev Period.printContext (period : Period) : PrintContext :=
  ⟨.invariant, .period period⟩

namespace Element

variable {period : Period}

theorem print_ofUnit (unit : PeriodField) (present : PeriodFieldSet) (affix : Affix)
    (optionalMillis : Bool) :
    print period.printContext (.number (.ofUnit unit present affix optionalMillis)) =
      match (NumberField.ofUnit unit present affix optionalMillis).printed? period.printContext with
      | some printed => printed.text ++ (affix.textFor printed.affixNumber).toList
      | none => [] := by
  rw [print, NumberField.print]
  cases (NumberField.ofUnit unit present affix optionalMillis).printed? period.printContext with
  | none => rfl
  | some printed => exact NumberField.render_ofUnit printed

/-- A unit prints some text exactly if it counts as a field. -/
theorem isEmpty_print_ofUnit (unit : PeriodField) (present : PeriodFieldSet) (affix : Affix)
    (optionalMillis : Bool) :
    (!(print period.printContext (.number (.ofUnit unit present affix optionalMillis))).isEmpty) =
      decide (0 < fieldCount period.printContext
        (.number (.ofUnit unit present affix optionalMillis))) := by
  rw [print_ofUnit, fieldCount, NumberField.fieldCount]
  cases (NumberField.ofUnit unit present affix optionalMillis).printed? period.printContext with
  | none => rfl
  | some printed =>
      have text := List.append_ne_nil_of_left_ne_nil printed.text_ne_nil
        (affix.textFor printed.affixNumber).toList
      simp only [List.isEmpty_eq_false_iff.mpr text]
      rfl

theorem sameLetter_print_ofUnit {unit : PeriodField} {present : PeriodFieldSet}
    {letter other : Char} (alpha : letter.isAlpha = true) (otherAlpha : other.isAlpha = true)
    (different : other.toLower ≠ letter.toLower) {c : Char}
    (member : c ∈ print period.printContext
      (.number (.ofUnit unit present (.simple other.toString) false))) :
    Text.sameLetter letter c = false := by
  rw [print_ofUnit] at member
  split at member
  · next printed shown =>
      rcases List.mem_append.mp member with number | own
      · exact Affix.sameLetter_number alpha (printed.isNumberCharacter_text c number)
      · have own : c = other := by
          simpa [Affix.textFor, Char.toString] using own
        subst own
        exact Text.sameLetter_eq_false_of_ascii (Text.toNat_of_isAlpha alpha).2
          (Text.toNat_of_isAlpha otherAlpha).2 different
  · cases member

end Element

/-- What reading the text of a unit puts into the bucket; nothing if the unit is not printed. -/
def NumberField.recordUnit (number : NumberField) (unit : PeriodField) (period : Period)
    (bucket : Bucket) : Bucket :=
  match number.printed? period.printContext with
  | some printed => putUnit unit printed bucket
  | none => bucket

/-- A unit that is put where it was printed and found missing where it was not reads back. -/
theorem NumberField.readsBack_ofUnit {settings : ParseSettings}
    (culture : settings.culture = .invariant) {unit : PeriodField} {present : PeriodFieldSet}
    {affix : Affix} {optionalMillis : Bool} {period : Period} {rest : List Char}
    (clear : affix.startsNoNumber = true)
    (there : ∀ printed ∈
      (ofUnit unit present affix optionalMillis).printed? period.printContext,
      printed.IsReadable optionalMillis ∧ affix.ReadsBefore rest ∧
        ∀ bucket, (ofUnit unit present affix optionalMillis).store settings.periodType
          printed.numeral bucket = .ok (putUnit unit printed bucket))
    (absent : (ofUnit unit present affix optionalMillis).printed? period.printContext = none →
      affix.distance? rest = none) :
    Element.ReadsBack settings period.printContext rest
      (.number (ofUnit unit present affix optionalMillis))
      ((ofUnit unit present affix optionalMillis).recordUnit unit period) := by
  intro position state
  let number := ofUnit unit present affix optionalMillis
  rw [Element.parse, Element.print, NumberField.parse, NumberField.print, recordUnit]
  cases shown : number.printed? period.printContext with
  | none =>
      have missing := absent shown
      simp only [List.nil_append, read_ofUnit_absent missing, Text.utf8Length_nil, Nat.add_zero]
  | some printed =>
      obtain ⟨readable, before, stored⟩ := there printed shown
      have taken := read_ofUnit unit present culture readable clear before position state.bucket
      simp only [stored] at taken
      simp only [taken]

end ChronoText
