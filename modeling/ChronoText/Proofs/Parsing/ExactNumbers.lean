import ChronoText.Proofs.Parsing.Numbers
import ChronoText.Proofs.Parsing.Runs
import ChronoText.Proofs.Parsing.StatedComponents

/-! Numbers that are read exactly. A number without affixes takes an optional sign and a run of
digits, and what it puts into the bucket is the integer that they denote, or it is refused. Digits
are added up only to a largest number, and a year has no range of its own. So a year with too many
digits is another one in the bucket, but then both are beyond the supported years, and no date is
made of either. -/

set_option autoImplicit false

namespace ChronoText

open Text (IsZeroDigit)

/-! ## Runs of digits -/

namespace Text

def isDigit (zero c : Char) : Bool :=
  (digitValue? zero c).isSome

theorem leadingDigits_take (zero : Char) (text : List Char) (limit : Nat) :
    leadingDigits zero (text.take limit) =
      ((text.takeWhile (isDigit zero)).take limit).filterMap (digitValue? zero) := by
  induction text generalizing limit with
  | nil => simp [leadingDigits]
  | cons c rest ih =>
      cases limit with
      | zero => rfl
      | succ limit =>
          cases value : digitValue? zero c with
          | none => simp [leadingDigits, isDigit, value]
          | some digit => simp [leadingDigits, isDigit, value, ih]

theorem length_filterMap_digitValue? {zero : Char} {digits : List Char}
    (all : ∀ c ∈ digits, isDigit zero c = true) :
    (digits.filterMap (digitValue? zero)).length = digits.length := by
  rw [List.length_filterMap_eq_countP, List.countP_eq_length]
  exact all

theorem startsWithCaseless_singleton {sign : Char} (low : BeforeLetters sign) (c : Char)
    (rest : List Char) : startsWithCaseless [sign] (c :: rest) = decide (sign = c) := by
  by_cases same : sign = c
  · rw [decide_eq_true same, same]
    exact startsWithCaseless_append [c] rest
  · rw [decide_eq_false same]
    exact startsWithCaseless_eq_false [] rest (.inl low) same

end Text

/-- The culture writes numbers with the ASCII signs, and with digits that no ASCII character is taken
for. -/
structure Culture.HasPlainSigns (culture : Culture) : Prop where
  digits : IsZeroDigit culture.zeroDigit
  negativeSign : culture.negativeSign = "-"
  positiveSign : culture.positiveSign = "+"

/-! ## Years beyond the supported ones -/

namespace Bucket

open Gregorian

variable {bucket : Bucket}

/-- The component from which the date gets its year, if that is one of years. -/
def yearField (bucket : Bucket) : DateTimeField :=
  if !bucket.hasMonthOrDay && (bucket.fields .weekYear).isSome then .weekYear else .year

theorem checkedYear_of_outside {field : DateTimeField} {value : Int}
    (outside : ¬ (minYear ≤ value ∧ value ≤ maxYear)) :
    checkedYear field value = .error (outOfRange value field) :=
  if_neg outside

theorem epochDay_of_yearField {value : Int} (read : bucket.fields bucket.yearField = some value)
    (outside : ¬ (minYear ≤ value ∧ value ≤ maxYear)) :
    bucket.epochDay = .error (outOfRange value bucket.yearField) := by
  cases fromWeek : !bucket.hasMonthOrDay && (bucket.fields .weekYear).isSome with
  | true =>
      have field : bucket.yearField = .weekYear := if_pos fromWeek
      rw [Bool.and_eq_true, Bool.not_eq_true'] at fromWeek
      obtain ⟨noMonth, hasWeekYear⟩ := fromWeek
      rw [field] at read ⊢
      have year : bucket.weekYear = .error (outOfRange value .weekYear) := by
        rw [Bucket.weekYear, read]
        exact checkedYear_of_outside outside
      rw [Bucket.epochDay, noMonth, hasWeekYear, dayOfWeekDate_eq_bind, year]
      rfl
  | false =>
      have field : bucket.yearField = .year := if_neg (ne_true_of_eq_false fromWeek)
      rw [field] at read ⊢
      have number : bucket.yearNumber = value := by rw [yearNumber, read]
      have year : bucket.year = .error (outOfRange value .year) := by
        rw [Bucket.year, number]
        exact checkedYear_of_outside outside
      have calendar : bucket.dayOfCalendarDate = .error (outOfRange value .year) := by
        rw [dayOfCalendarDate, year]
        rfl
      have ordinal (dayOfYear : Int) :
          bucket.dayOfOrdinalDate dayOfYear = .error (outOfRange value .year) := by
        rw [dayOfOrdinalDate, year]
        rfl
      rw [Bucket.epochDay]
      cases monthOrDay : bucket.hasMonthOrDay with
      | true => exact calendar
      | false =>
          rw [monthOrDay, Bool.not_false, Bool.true_and] at fromWeek
          have noWeekYear := Option.not_isSome_iff_eq_none.mp (ne_true_of_eq_false fromWeek)
          have week : bucket.dayOfWeekDate = .error (outOfRange value .year) := by
            rw [dayOfWeekDate_eq_bind, weekYear, noWeekYear]
            simp only [year]
            rfl
          simp only [Bool.false_eq_true, if_false, fromWeek, Bool.false_or, week, ordinal, calendar]
          split
          · rfl
          · split <;> rfl

theorem toLocal_of_yearField {value : Int} (read : bucket.fields bucket.yearField = some value)
    (outside : ¬ (minYear ≤ value ∧ value ≤ maxYear)) :
    bucket.toLocal = .error (outOfRange value bucket.yearField) := by
  rw [toLocal, epochDay_of_yearField read outside]
  rfl

end Bucket

namespace DateTimeField

/-- A value of the field stands for an integer: it is the integer, in the range of the field, or a
year with which no date is made because the integer is beyond the supported years. -/
def Represents (field : DateTimeField) (value integer : Int) : Prop :=
  match field.parseRange? with
  | some (least, greatest) => value = integer ∧ least ≤ integer ∧ integer ≤ greatest
  | none =>
    if Gregorian.minYear ≤ integer ∧ integer ≤ Gregorian.maxYear then value = integer
    else ∀ later : Bucket, later.yearField = field → later.fields field = some value →
      later.toLocal = .error (Bucket.outOfRange value field)

private theorem largestRead_eq : Text.largestRead = 9223372036854775807 := rfl

theorem parseRange?_bounds {field : DateTimeField} {least greatest : Int}
    (range : field.parseRange? = some (least, greatest)) : 0 ≤ least ∧ greatest ≤ 999999999 := by
  cases field <;> cases range <;> decide

/-- An admitted value that is exact, or in place of an integer too large to be added up, stands for
that integer. -/
theorem represents_of_admits {field : DateTimeField} {value integer : Int}
    (admitted : field.admits value = true)
    (exact_or_large : value = integer ∨
      (value.natAbs = Text.largestRead ∧ Text.largestRead < integer.natAbs)) :
    field.admits integer = true ∧ field.Represents value integer := by
  rw [largestRead_eq] at exact_or_large
  unfold Represents admits at *
  cases range : field.parseRange? with
  | some bounds =>
      obtain ⟨least, greatest⟩ := bounds
      obtain ⟨low, high⟩ := parseRange?_bounds range
      simp only [range, Bool.and_eq_true, decide_eq_true_eq] at admitted ⊢
      omega
  | none =>
      refine ⟨rfl, ?_⟩
      have first : Gregorian.minYear = -271821 := rfl
      have last : Gregorian.maxYear = 275760 := rfl
      dsimp only
      split
      · omega
      · next outside =>
          intro later same read
          rw [← same] at read ⊢
          exact Bucket.toLocal_of_yearField read (by omega)

end DateTimeField

namespace NumberField

/-! ## What a number takes -/

/-- The number stands alone: no affix belongs to it, and no fraction. -/
structure IsBare (number : NumberField) : Prop where
  leading : number.leading = none
  trailing : number.trailing = none
  whole : number.optionalMillis = false

/-- The sign with which a text starts, for a number that may carry one and right before a digit. -/
def sign (number : NumberField) (zero : Char) : List Char → List Char
  | [] => []
  | c :: rest =>
    if number.selector.isSigned ∧ (c = '-' ∨ c = '+') ∧ Text.startsWithDigit zero rest then [c]
    else []

/-- The digits behind the sign, cut at the limit of the number. -/
def digits (number : NumberField) (zero : Char) (text : List Char) : List Char :=
  ((text.drop (number.sign zero text).length).takeWhile (Text.isDigit zero)).take number.digitLimit

def integer (number : NumberField) (zero : Char) (text : List Char) : Int :=
  let magnitude : Int := Text.valueOfDigits
    ((number.digits zero text).filterMap (Text.digitValue? zero))
  if number.sign zero text = ['-'] then -magnitude else magnitude

variable {number : NumberField} {zero : Char} {text : List Char}

theorem sign_prefix (number : NumberField) (zero : Char) (text : List Char) :
    number.sign zero text <+: text := by
  cases text with
  | nil => exact List.nil_prefix
  | cons c rest =>
      rw [sign]
      split
      · exact List.prefix_append [c] rest
      · exact List.nil_prefix

theorem digits_prefix (number : NumberField) (zero : Char) (text : List Char) :
    number.digits zero text <+: text.drop (number.sign zero text).length :=
  (List.take_prefix _ _).trans (List.takeWhile_prefix _)

theorem text_eq (number : NumberField) (zero : Char) (text : List Char) :
    text = number.sign zero text ++ number.digits zero text ++
      text.drop ((number.sign zero text).length + (number.digits zero text).length) := by
  have behindSign := List.prefix_iff_eq_append.mp (number.sign_prefix zero text)
  have behindDigits := List.prefix_iff_eq_append.mp (number.digits_prefix zero text)
  rw [List.append_assoc, ← List.drop_drop, behindDigits, behindSign]

theorem isDigit_of_mem_digits {c : Char} (member : c ∈ number.digits zero text) :
    Text.isDigit zero c = true :=
  List.mem_takeWhile_imp (List.mem_of_mem_take member)

/-! ## Numerals -/

variable {culture : Culture}

theorem signBefore?_eq (plain : culture.HasPlainSigns) (number : NumberField) (text : List Char) :
    (if number.selector.isSigned then signBefore? culture text else none) =
      if number.sign culture.zeroDigit text = [] then none
      else some (decide (number.sign culture.zeroDigit text = ['-']),
        (number.sign culture.zeroDigit text).length) := by
  have minus : "-".toList = ['-'] := rfl
  have plus : "+".toList = ['+'] := rfl
  cases signed : number.selector.isSigned with
  | false => cases text <;> simp [sign, signed]
  | true =>
      cases text with
      | nil => simp [sign, signBefore?, plain.negativeSign, plain.positiveSign, minus, plus,
          Text.startsWithCaseless]
      | cons c rest =>
          have startsMinus := Text.startsWithCaseless_singleton
            (by decide : Text.BeforeLetters '-') c rest
          have startsPlus := Text.startsWithCaseless_singleton
            (by decide : Text.BeforeLetters '+') c rest
          cases digit : Text.startsWithDigit culture.zeroDigit rest with
          | false => simp [sign, signBefore?, plain.negativeSign, plain.positiveSign, minus, plus,
              digit]
          | true =>
              by_cases isMinus : c = '-'
              · subst isMinus
                simp [sign, signBefore?, plain.negativeSign, minus, signed, startsMinus, digit]
              · by_cases isPlus : c = '+'
                · subst isPlus
                  simp [sign, signBefore?, plain.negativeSign, plain.positiveSign, minus, plus,
                    signed, startsMinus, startsPlus, digit]
                · have otherMinus : ¬ '-' = c := fun same => isMinus same.symm
                  have otherPlus : ¬ '+' = c := fun same => isPlus same.symm
                  simp [sign, signBefore?, plain.negativeSign, plain.positiveSign, minus, plus,
                    startsMinus, startsPlus, isMinus, isPlus, otherMinus, otherPlus]

/-- What is read of a number without a fraction is what it takes, in digits for each of which there is
a value. -/
def numeral (number : NumberField) (zero : Char) (text : List Char) : Numeral where
  negative := decide (number.sign zero text = ['-'])
  digits := (number.digits zero text).filterMap (Text.digitValue? zero)
  millis? := none
  length := (number.sign zero text).length + (number.digits zero text).length

theorem length_digits_numeral (number : NumberField) (zero : Char) (text : List Char) :
    (number.numeral zero text).digits.length = (number.digits zero text).length :=
  Text.length_filterMap_digitValue? fun _ => isDigit_of_mem_digits

def behind (number : NumberField) (zero : Char) (text : List Char) : List Char :=
  text.drop ((number.sign zero text).length + (number.digits zero text).length)

/-- A numeral without a fraction is what the number takes, unless that is refused: for its sign, for
want of a digit, for a width that is not reached, or for more digits than a unit may have. -/
theorem readNumeral_bare (plain : culture.HasPlainSigns) {number : NumberField}
    (whole : number.optionalMillis = false) (required : Bool) (start : Cursor) :
    let zero := culture.zeroDigit
    let digitsStart := start.advance (number.sign zero start.rest).length
    number.readNumeral culture required none start =
      if number.rejectSigned && number.sign zero start.rest ≠ [] then
        .error (some ⟨start.position, number.named .signUnexpected⟩)
      else if number.digits zero start.rest = [] then
        .error (if required then some ⟨start.position, number.named .numberMismatch⟩ else none)
      else if number.fixedWidth && (number.digits zero start.rest).length < number.minDigits then
        .error (some ⟨digitsStart.position, number.named .numberMismatch⟩)
      else if number.selector.periodField?.isSome &&
          (number.digits zero start.rest).length = number.digitLimit &&
          Text.startsWithDigit zero (number.behind zero start.rest) then
        .error (some ⟨digitsStart.position,
          (number.named .excessDigits).withParam (.count number.digitLimit)⟩)
      else .ok (number.numeral zero start.rest) := by
  intro zero digitsStart
  have found : (if number.selector.isSigned then signBefore? culture start.rest
      else none).isSome = decide (number.sign zero start.rest ≠ []) := by
    rw [signBefore?_eq plain]
    split
    · next none => simp [zero, none]
    · next some => simp [zero, some]
  have signed : ((if number.selector.isSigned then signBefore? culture start.rest
      else none).getD (false, 0)) =
        (decide (number.sign zero start.rest = ['-']), (number.sign zero start.rest).length) := by
    rw [signBefore?_eq plain]
    split
    · next none => simp [zero, none]
    · rfl
  have values : Text.leadingDigits zero
      ((start.rest.drop (number.sign zero start.rest).length).take number.digitLimit) =
        (number.numeral zero start.rest).digits :=
    Text.leadingDigits_take _ _ _
  have length := number.length_digits_numeral zero start.rest
  have nil_iff : (number.numeral zero start.rest).digits = [] ↔
      number.digits zero start.rest = [] := by
    rw [← List.length_eq_zero_iff, length, List.length_eq_zero_iff]
  unfold readNumeral
  simp only [bind, Except.bind, pure, Except.pure, throw, throwThe, MonadExceptOf.throw, whole,
    found, signed, Cursor.rest_advance, ← digitLimit.eq_def]
  simp only [show culture.zeroDigit = zero from rfl, values, nil_iff, length, List.drop_drop,
    Bool.false_eq_true, if_false, Option.map_none, Option.getD_none, Nat.add_zero]
  rfl

/-! ## Readings -/

/-- A number has to be there, or it may be: its unit is one that the period type knows. -/
def IsExpected (number : NumberField) (type : PeriodType) : Prop :=
  number.isRequired = true ∨ ∀ unit, number.selector = .period unit → type.supports unit = true

variable {settings : ParseSettings} {start : Cursor} {bucket : Bucket}

theorem read_of_empty (empty : start.rest = []) :
    number.read settings start bucket =
      .error (if number.isRequired then
        .failed ⟨start.position, number.named .numberMismatch⟩ bucket else .absent) := by
  unfold NumberField.read
  simp only [empty, if_true]
  cases number.isRequired <;> rfl

theorem read_of_unexpected (bare : number.IsBare) (given : start.rest ≠ [])
    (unexpected : ¬ number.IsExpected settings.periodType) :
    number.read settings start bucket = .error .absent := by
  rw [IsExpected, not_or, not_forall, Bool.not_eq_true] at unexpected
  obtain ⟨optional, unit, unknown⟩ := unexpected
  rw [Classical.not_imp, Bool.not_eq_true] at unknown
  obtain ⟨selector, unknown⟩ := unknown
  unfold NumberField.read
  simp only [given, bare.leading, bare.trailing, optional, selector, unknown, bind, Except.bind, pure,
    Except.pure, throw, throwThe, MonadExceptOf.throw, Option.isSome_none, Bool.or_false,
    Bool.not_false, Bool.and_self, if_false, if_true]

theorem read_bare (bare : number.IsBare) (given : start.rest ≠ [])
    (expected : number.IsExpected settings.periodType) :
    number.read settings start bucket =
      ((number.readNumeral settings.culture number.isRequired none start).mapError fun
        | some fault => Interruption.failed fault bucket
        | none => .absent) >>= fun numeral =>
      ((number.store settings.periodType numeral bucket).mapError fun (failure, bucket) =>
        Interruption.failed ⟨start.position, failure⟩ bucket) >>= fun after =>
      .ok (start.advance numeral.length, after) := by
  unfold NumberField.read
  simp only [given, bare.leading, bare.trailing, bind, Except.bind, pure, Except.pure, throw, throwThe,
    MonadExceptOf.throw, Option.isSome_none, Bool.or_false, if_false]
  split
  · rfl
  · next unit selector =>
      have known : (!number.isRequired && !settings.periodType.supports unit) = false := by
        rcases expected with required | known
        · rw [required, Bool.not_true, Bool.false_and]
        · rw [known unit selector, Bool.not_true, Bool.and_false]
      rw [known]
      rfl

/-! ## Values -/

/-- Whether a number can hold an integer. Years have no range of their own. -/
def Holds (number : NumberField) (integer : Int) : Prop :=
  match number.selector with
  | .period _ => -2 ^ 31 ≤ integer ∧ integer < 2 ^ 31
  | .dateTime field => field.admits integer = true

def Stores (number : NumberField) (integer : Int) (bucket after : Bucket) : Prop :=
  match number.selector with
  | .period unit =>
    ∃ amount : Int32, amount.toInt = integer ∧ after = bucket.setPeriodField unit amount
  | .dateTime field =>
    ∃ value : Int, field.Represents value integer ∧ after = bucket.setField field value

/-- The numeral has the value of the integer, unless that is too large to be added up. -/
theorem value_numeral (number : NumberField) (zero : Char) (text : List Char) :
    (number.numeral zero text).value = number.integer zero text ∨
      ((number.numeral zero text).value.natAbs = Text.largestRead ∧
        Text.largestRead < (number.integer zero text).natAbs) := by
  rw [Numeral.value, integer, Text.denoted_eq_min]
  simp only [numeral, decide_eq_true_eq]
  split <;> omega

theorem stores_numeral {type : PeriodType} {zero : Char} {text : List Char} {after : Bucket}
    (stored : number.store type (number.numeral zero text) bucket = .ok after) :
    number.Holds (number.integer zero text) ∧
      number.Stores (number.integer zero text) bucket after := by
  have value := number.value_numeral zero text
  cases selector : number.selector with
  | period unit =>
      have largest : Text.largestRead = 9223372036854775807 := rfl
      obtain ⟨bounds, rfl⟩ := store_eq_ok selector stored
      have exact : (number.numeral zero text).value = number.integer zero text := by omega
      rw [exact] at bounds ⊢
      rw [Holds, Stores, selector]
      exact ⟨bounds, _, Int32.toInt_ofInt_of_le (by omega) (by omega), rfl⟩
  | dateTime field =>
      unfold store at stored
      simp only [selector] at stored
      split at stored
      · next admitted =>
          cases stored
          obtain ⟨held, represents⟩ := DateTimeField.represents_of_admits admitted value
          rw [Holds, Stores, selector]
          exact ⟨held, _, represents, rfl⟩
      · cases stored

/-! ## Exact numbers -/

/-- The number is read at a cursor from its sign and its digits on, up to the next cursor, and stored
with the integer that they denote. -/
structure ReadsExactly (number : NumberField) (zero : Char) (cursor next : Cursor)
    (bucket after : Bucket) : Prop where
  text : cursor.rest = number.sign zero cursor.rest ++ number.digits zero cursor.rest ++ next.rest
  position : next.position = cursor.position +
    Text.utf8Length (number.sign zero cursor.rest ++ number.digits zero cursor.rest)
  nonempty : number.digits zero cursor.rest ≠ []
  width : number.fixedWidth = true →
    (number.digits zero cursor.rest).length = number.minDigits
  stores : number.Stores (number.integer zero cursor.rest) bucket after

theorem digits_nil (number : NumberField) (zero : Char) : number.digits zero [] = [] := by
  simp [digits]

theorem advance_eq (number : NumberField) (zero : Char) (cursor : Cursor) :
    cursor.advance (number.numeral zero cursor.rest).length =
      ⟨cursor.position +
          Text.utf8Length (number.sign zero cursor.rest ++ number.digits zero cursor.rest),
        number.behind zero cursor.rest⟩ := by
  obtain ⟨position, text⟩ := cursor
  have shape := number.text_eq zero text
  have length : (number.numeral zero text).length =
      (number.sign zero text ++ number.digits zero text).length := by
    rw [List.length_append, numeral]
  have advanced := Cursor.advance_append position
    (number.sign zero text ++ number.digits zero text) (number.behind zero text)
  rwa [behind, ← shape, ← length] at advanced

/-- What comes of reading a numeral: a fault, no digit where none is required, or the numeral that the
number takes. -/
theorem readNumeral_cases (plain : culture.HasPlainSigns) {number : NumberField}
    (whole : number.optionalMillis = false) (required : Bool) (start : Cursor) :
    (∃ fault, number.readNumeral culture required none start = .error (some fault)) ∨
    (number.readNumeral culture required none start = .error none ∧
      number.digits culture.zeroDigit start.rest = []) ∨
    (number.readNumeral culture required none start =
        .ok (number.numeral culture.zeroDigit start.rest) ∧
      number.digits culture.zeroDigit start.rest ≠ [] ∧
      (number.fixedWidth = true →
        (number.digits culture.zeroDigit start.rest).length = number.minDigits)) := by
  rw [readNumeral_bare plain whole]
  split
  · exact .inl ⟨_, rfl⟩
  · split
    · next none =>
        cases required with
        | true => exact .inl ⟨_, rfl⟩
        | false => exact .inr (.inl ⟨rfl, none⟩)
    · next some =>
        split
        · exact .inl ⟨_, rfl⟩
        · next wide =>
            split
            · exact .inl ⟨_, rfl⟩
            · refine .inr (.inr ⟨rfl, some, fun fixed => ?_⟩)
              have atMost : (number.digits culture.zeroDigit start.rest).length ≤
                  number.digitLimit := List.length_take_le _ _
              rw [digitLimit, if_pos fixed] at atMost
              simp only [fixed, Bool.true_and, decide_eq_true_eq, not_lt] at wide
              omega

/-- What comes of a number: it fails, it reads nothing, or it is read exactly. It passes digits that
are expected only if it holds what they denote. -/
def ParsesExactly (number : NumberField) (settings : ParseSettings) (cursor : Cursor)
    (state : ParseState) : Prop :=
  (∃ position after, number.parse settings cursor state = (.failedAt position, after)) ∨
  (number.parse settings cursor state = (.advanced cursor, state) ∧
    (number.IsExpected settings.periodType →
      number.digits settings.culture.zeroDigit cursor.rest = [])) ∨
  ∃ next after, number.parse settings cursor state = (.advanced next, after) ∧
    number.ReadsExactly settings.culture.zeroDigit cursor next state.bucket after.bucket ∧
    after.failure? = state.failure? ∧
    number.Holds (number.integer settings.culture.zeroDigit cursor.rest)

theorem parsesExactly_of_empty {cursor : Cursor} (finished : cursor.rest = [])
    (state : ParseState) : number.ParsesExactly settings cursor state := by
  have read := @read_of_empty number settings cursor state.bucket finished
  unfold ParsesExactly
  rw [parse, read, finished, digits_nil]
  cases number.isRequired with
  | true => exact .inl ⟨_, _, rfl⟩
  | false => exact .inr (.inl ⟨rfl, fun _ => rfl⟩)

theorem parsesExactly_of_unexpected (bare : number.IsBare) {cursor : Cursor}
    (given : cursor.rest ≠ []) (unexpected : ¬ number.IsExpected settings.periodType)
    (state : ParseState) : number.ParsesExactly settings cursor state := by
  refine .inr (.inl ⟨?_, fun expected => absurd expected unexpected⟩)
  rw [parse, read_of_unexpected bare given unexpected]

theorem parsesExactly_of_expected (bare : number.IsBare) (plain : settings.culture.HasPlainSigns)
    {cursor : Cursor} (given : cursor.rest ≠ []) (expected : number.IsExpected settings.periodType)
    (state : ParseState) : number.ParsesExactly settings cursor state := by
  unfold ParsesExactly
  rw [parse, read_bare bare given expected]
  rcases number.readNumeral_cases plain bare.whole number.isRequired cursor with
    ⟨fault, refused⟩ | ⟨absent, none⟩ | ⟨read, nonempty, width⟩
  · rw [refused]
    exact .inl ⟨_, _, rfl⟩
  · rw [absent]
    exact .inr (.inl ⟨rfl, fun _ => none⟩)
  · rw [read]
    cases stored : number.store settings.periodType
        (number.numeral settings.culture.zeroDigit cursor.rest) state.bucket with
    | error error =>
        simp only [Except.mapError, bind, Except.bind, stored]
        exact .inl ⟨_, _, rfl⟩
    | ok bucket =>
        simp only [Except.mapError, bind, Except.bind, stored]
        have advanced := number.advance_eq settings.culture.zeroDigit cursor
        have shape := number.text_eq settings.culture.zeroDigit cursor.rest
        obtain ⟨held, stores⟩ := stores_numeral stored
        rw [advanced]
        exact .inr (.inr ⟨_, _, rfl, ⟨shape, rfl, nonempty, width, stores⟩, rfl, held⟩)

theorem parsesExactly (bare : number.IsBare) (plain : settings.culture.HasPlainSigns)
    (cursor : Cursor) (state : ParseState) : number.ParsesExactly settings cursor state := by
  by_cases finished : cursor.rest = []
  · exact parsesExactly_of_empty finished state
  · by_cases expected : number.IsExpected settings.periodType
    · exact parsesExactly_of_expected bare plain finished expected state
    · exact parsesExactly_of_unexpected bare finished expected state

/-- A number is read exactly or not at all: it gets on with the integer that its text denotes, or
nothing is read and nothing changes, or it fails. Where digits stand for a number that is expected and
that cannot hold their integer, it fails. -/
theorem parse_exact_or_refused (bare : number.IsBare) (plain : settings.culture.HasPlainSigns)
    (cursor : Cursor) (state : ParseState) :
    (∀ next after, number.parse settings cursor state = (.advanced next, after) →
      (next = cursor ∧ after = state) ∨
        (number.ReadsExactly settings.culture.zeroDigit cursor next state.bucket after.bucket ∧
          after.failure? = state.failure?)) ∧
    (number.IsExpected settings.periodType →
      number.digits settings.culture.zeroDigit cursor.rest ≠ [] →
      ¬ number.Holds (number.integer settings.culture.zeroDigit cursor.rest) →
        ∃ position after, number.parse settings cursor state = (.failedAt position, after)) := by
  rcases parsesExactly bare plain cursor state with
    failed | ⟨nothing, absent⟩ | ⟨next, after, gotOn, exactly, kept, held⟩
  · refine ⟨fun next after gotOn => ?_, fun _ _ _ => failed⟩
    obtain ⟨position, refused, parsed⟩ := failed
    rw [parsed] at gotOn
    cases gotOn
  · refine ⟨fun next after parsed => ?_, fun expected some => absurd (absent expected) some⟩
    rw [nothing] at parsed
    cases parsed
    exact .inl ⟨rfl, rfl⟩
  · refine ⟨fun next after parsed => ?_, fun _ _ misfit => absurd held misfit⟩
    rw [gotOn] at parsed
    cases parsed
    exact .inr ⟨exactly, kept⟩

def arabicSettings : ParseSettings := { culture := { Culture.invariant with zeroDigit := '\u0660' } }

/-- A year of up to thirty digits, of which one before the common era has two kinds in one text. -/
def wideYear : NumberField := .ofDateTime .year 1 30

def farYear : List Char := "-٢٠24٢٠24٢٠24٢٠24٢٠24!".toList

def optionalDays : NumberField :=
  { selector := .period .days, minDigits := 1, maxParsedDigits := 10, zeroPolicy := .never }

/-- A year of twenty digits is read to its end, and no date is made of it. Three thousand million days
are refused. -/
theorem parse_exact_or_refused_farYear :
    wideYear.IsBare ∧ optionalDays.IsBare ∧ arabicSettings.culture.HasPlainSigns ∧
      (∃ next after, wideYear.parse arabicSettings (.start farYear) {} = (.advanced next, after) ∧
        next = ⟨31, ['!']⟩ ∧ wideYear.integer '\u0660' farYear = -20242024202420242024 ∧
        ∃ failure, after.bucket.toLocal = .error failure ∧ failure.kind = .valueOutOfRange) ∧
      ∃ position after, optionalDays.parse arabicSettings (.start "3000000000".toList) {} =
        (.failedAt position, after) := by
  have year : wideYear.IsBare := ⟨rfl, rfl, rfl⟩
  have days : optionalDays.IsBare := ⟨rfl, rfl, rfl⟩
  have plain : arabicSettings.culture.HasPlainSigns := ⟨.inr (by decide), rfl, rfl⟩
  refine ⟨year, days, plain, ?_, ?_⟩
  · obtain ⟨gotOn, _⟩ := parse_exact_or_refused year plain (.start farYear) {}
    refine ⟨⟨31, ['!']⟩, _, rfl, rfl, by decide +kernel, ?_⟩
    rcases gotOn _ _ rfl with ⟨nothing, _⟩ | ⟨read, _⟩
    · exact absurd nothing (by decide)
    · obtain ⟨value, represents, stored⟩ := read.stores
      rw [stored]
      exact ⟨_, represents _ rfl rfl, rfl⟩
  · obtain ⟨_, refused⟩ := parse_exact_or_refused days plain (.start "3000000000".toList) {}
    refine refused (.inr fun unit selector => ?_) (by decide) ?_
    · cases selector
      rfl
    · have integer : optionalDays.integer '\u0660' "3000000000".toList = 3000000000 := by
        decide +kernel
      rintro ⟨_, small⟩
      exact absurd (integer ▸ small : (3000000000 : Int) < 2 ^ 31) (by decide)

end NumberField

end ChronoText
