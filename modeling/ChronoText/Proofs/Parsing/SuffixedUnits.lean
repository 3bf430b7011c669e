import ChronoText.Proofs.Parsing.ExactNumbers
import ChronoText.Proofs.Parsing.Undigited
import ChronoText.Proofs.Parsing.UnitAmounts

/-! Units that read their own texts behind an affix. Whether such a unit is there is decided by a scan
for its affix, which passes the characters of a number in ASCII and no others, whatever the culture
writes. So a unit reads what it printed exactly if the culture writes ASCII digits, the sign that was
printed is made of characters that are passed, and the form of the affix that was printed is the one
that is taken. -/

set_option autoImplicit false

namespace ChronoText

open Text (IsZeroDigit)

/-! ## Forms that are taken -/

namespace Affix

variable {affix : Affix} {text : List Char}

/-- The form of the affix that is taken where a text follows. -/
def form? (affix : Affix) (text : List Char) : Option String :=
  affix.forms.find? fun form => Text.startsWithCaseless form.toList text

def TakesWhole (affix : Affix) (text : List Char) : Prop :=
  ∃ form ∈ affix.form? text, form.toList.length = text.length

theorem skip?_eq_form? (affix : Affix) (cursor : Cursor) :
    affix.skip? cursor =
      (affix.form? cursor.rest).map fun form => cursor.advance form.toList.length := by
  unfold skip? form?
  induction affix.forms with
  | nil => rfl
  | cons form forms ih =>
      rw [List.findSome?_cons, List.find?_cons, Cursor.skip?]
      cases Text.startsWithCaseless form.toList cursor.rest with
      | true => rfl
      | false => exact ih

theorem TakesWhole.skip? (takes : affix.TakesWhole text) (position : Nat) :
    affix.skip? ⟨position, text⟩ = some ⟨position + Text.utf8Length text, []⟩ := by
  obtain ⟨form, taken, length⟩ := takes
  have advanced := Cursor.advance_append position text []
  rw [List.append_nil] at advanced
  rw [skip?_eq_form?, taken, Option.map_some, length, advanced]

theorem takesWhole_of_skip? {cursor next : Cursor} (skipped : affix.skip? cursor = some next)
    (finished : next.rest = []) : affix.TakesWhole cursor.rest := by
  rw [skip?_eq_form?, Option.map_eq_some_iff] at skipped
  obtain ⟨form, taken, rfl⟩ := skipped
  have starts := List.find?_some (show affix.forms.find? _ = some form from taken)
  have atMost := Text.length_le_of_startsWithCaseless starts
  rw [Cursor.rest_advance, List.drop_eq_nil_iff] at finished
  exact ⟨form, taken, Nat.le_antisymm atMost finished⟩

theorem isNumberCharacter_of_distance? {characters : Nat}
    (found : affix.distance? text = some characters) :
    ∀ c ∈ text.take characters, isNumberCharacter c = true := by
  induction text generalizing characters with
  | nil => cases found
  | cons c rest ih =>
      rw [distance?] at found
      split at found
      · cases found
        exact List.forall_mem_nil _
      · split at found
        · next number =>
            obtain ⟨more, later, rfl⟩ := Option.map_eq_some_iff.mp found
            exact List.forall_mem_cons.mpr ⟨number, ih later⟩
        · cases found

end Affix

/-! ## Numerals in front of an affix -/

def Culture.IsClearSign (culture : Culture) (sign : String) : Prop :=
  sign ≠ "" ∧ ∀ c ∈ sign.toList, Text.digitValue? culture.zeroDigit c = none

structure Culture.HasClearSigns (culture : Culture) : Prop where
  digits : IsZeroDigit culture.zeroDigit
  negativeSign : culture.IsClearSign culture.negativeSign
  positiveSign : culture.IsClearSign culture.positiveSign

namespace NumberField

variable {number : NumberField} {unit : PeriodField} {affix : Affix} {culture : Culture}
  {settings : ParseSettings} {start next : Cursor} {bucket after : Bucket}

/-- A unit that is recognised by an affix behind its number, of which no form starts like a number: a
letter or a space, for one, starts none. -/
structure IsSuffixed (number : NumberField) (unit : PeriodField) (affix : Affix) : Prop where
  selector : number.selector = .period unit
  leading : number.leading = none
  trailing : number.trailing = some affix
  optional : number.zeroPolicy ≠ .always
  clear : affix.startsNoNumber = true

theorem ofUnit_isSuffixed {present : PeriodFieldSet} {optionalMillis : Bool}
    (clear : affix.startsNoNumber = true) :
    (ofUnit unit present affix optionalMillis).IsSuffixed unit affix :=
  ⟨rfl, rfl, rfl, nofun, clear⟩

theorem not_of_ite_error {Error Value : Type} {condition : Prop} [Decidable condition]
    {error : Error} {result : Except Error Value} {value : Value}
    (passed : (if condition then .error error else result) = .ok value) : ¬ condition := by
  intro holds
  rw [if_pos holds] at passed
  cases passed

theorem exists_digit_of_readNumeral {required : Bool} {characters : Nat} {numeral : Numeral}
    (read : number.readNumeral culture required (some characters) start = .ok numeral) :
    ∃ c ∈ start.rest.take characters, Text.digitValue? culture.zeroDigit c ≠ none := by
  have of_digits {text : List Char} (some : Text.leadingDigits culture.zeroDigit text ≠ []) :
      ∃ c ∈ text, Text.digitValue? culture.zeroDigit c ≠ none := by
    cases text with
    | nil => exact absurd rfl some
    | cons c rest =>
        refine ⟨c, List.mem_cons_self, fun none => some ?_⟩
        simp only [Text.leadingDigits, none]
  unfold readNumeral at read
  simp only [bind, Except.bind, pure, Except.pure, throw, throwThe, MonadExceptOf.throw] at read
  obtain ⟨c, member, digit⟩ := of_digits (not_of_ite_error (ok_of_ite_error read))
  have inWindow := List.mem_of_mem_take member
  rw [Cursor.rest_advance, ← List.drop_take] at inWindow
  exact ⟨c, List.mem_of_mem_drop inWindow, digit⟩

theorem read_suffixed_eq_ok_iff (suffixed : number.IsSuffixed unit affix)
    (given : start.rest ≠ []) :
    number.read settings start bucket = .ok (next, after) ↔
      ∃ numeral, affix.distance? start.rest = some numeral.length ∧
        number.readNumeral settings.culture true (some numeral.length) start = .ok numeral ∧
        number.store settings.periodType numeral bucket = .ok after ∧
        affix.skip? (start.advance numeral.length) = some next := by
  have optional : number.isRequired = false := by
    simp [isRequired, suffixed.selector, FieldSelector.periodField?, suffixed.optional]
  unfold NumberField.read
  simp only [given, suffixed.leading, suffixed.trailing, suffixed.selector, optional, bind,
    Except.bind, pure, Except.pure, throw, throwThe, MonadExceptOf.throw, Option.isSome_some,
    Bool.or_true, Bool.not_true, Bool.false_and, Bool.false_eq_true, if_false]
  constructor
  · intro read
    split at read
    · next characters found =>
        split at read
        · cases read
        · next numeral numeralRead =>
            have numeralRead := eq_ok_of_mapError numeralRead
            split at read
            · cases read
            · next length =>
                rw [not_not] at length
                subst length
                split at read
                · cases read
                · next stored =>
                    split at read
                    · next skipped =>
                        cases read
                        exact ⟨numeral, found, numeralRead, eq_ok_of_mapError stored, skipped⟩
                    · cases read
    · cases read
  · rintro ⟨numeral, found, numeralRead, stored, skipped⟩
    simp only [found, numeralRead, stored, skipped, Except.mapError, ne_eq, not_true_eq_false,
      if_false]

/-! ## Texts of units -/

theorem startsWithCaseless_of_clear {sign text : List Char} (nonempty : sign ≠ [])
    (clear : ∀ c ∈ sign, Text.digitValue? '0' c = none)
    (start : Text.startsWithDigit '0' text = true) : Text.startsWithCaseless sign text = false := by
  obtain ⟨e, others, rfl⟩ := List.exists_cons_of_ne_nil nonempty
  have other := (List.forall_mem_cons.mp clear).1
  cases text with
  | nil => cases start
  | cons c rest =>
      have digit : (Text.digitValue? '0' c).isSome = true := start
      have isDigit : c.isDigit = true := by
        by_contra notDigit
        rw [Text.digitValue?_zero_eq_none (Bool.eq_false_iff.mpr notDigit)] at digit
        cases digit
      refine Text.startsWithCaseless_eq_false others rest
        (.inr (Text.beforeLetters_of_isDigit isDigit)) ?_
      rintro rfl
      rw [other] at digit
      cases digit

theorem signBefore?_own (ascii : culture.zeroDigit = '0') (clear : culture.HasClearSigns)
    (negative : Bool) {body : List Char} (start : Text.startsWithDigit '0' body = true) :
    let sign := if negative then culture.negativeSign.toList else []
    signBefore? culture (sign ++ body) = if negative then some (true, sign.length) else none := by
  have isSome {sign : String} (isClear : culture.IsClearSign sign) : sign.toList ≠ [] :=
    fun empty => isClear.1 (String.toList_eq_nil_iff.mp empty)
  have missing {sign : String} (isClear : culture.IsClearSign sign) :
      Text.startsWithCaseless sign.toList body = false :=
    startsWithCaseless_of_clear (isSome isClear) (ascii ▸ isClear.2) start
  have minus : culture.IsClearSign "-" := by
    refine ⟨by decide, List.forall_mem_singleton.mpr ?_⟩
    rw [ascii]
    rfl
  have plus : culture.IsClearSign "+" := by
    refine ⟨by decide, List.forall_mem_singleton.mpr ?_⟩
    rw [ascii]
    rfl
  intro sign
  cases negative with
  | true =>
      have length : culture.negativeSign.toList.length ≠ 0 :=
        mt List.length_eq_zero_iff.mp (isSome clear.negativeSign)
      simp only [sign, signBefore?, if_true, List.findSome?_cons, length, ne_eq, not_false_eq_true,
        Text.startsWithCaseless_append, List.drop_left, ascii, start, and_self]
  | false =>
      simp only [sign, signBefore?, Bool.false_eq_true, if_false, List.nil_append,
        List.findSome?_cons, missing clear.negativeSign, missing minus, missing clear.positiveSign,
        missing plus, false_and, and_false, List.findSome?_nil]

end NumberField

namespace PrintedNumber

variable {culture : Culture} {printed : PrintedNumber}

def signIn (printed : PrintedNumber) (culture : Culture) : List Char :=
  if printed.negative then culture.negativeSign.toList else []

def fractionIn (printed : PrintedNumber) (culture : Culture) : List Char :=
  match printed.millis? with
  | some millis => culture.decimalSeparator.toList ++ Text.padded culture.zeroDigit 3 millis
  | none => []

/-- The number as it is printed in a culture, without an affix. -/
def textIn (printed : PrintedNumber) (culture : Culture) (minDigits : Nat) : List Char :=
  printed.signIn culture
    ++ (Text.padded culture.zeroDigit minDigits printed.whole ++ printed.fractionIn culture)

/-- The sign and the digits of the number are not refused. What has milliseconds can make up more
seconds than a unit holds, and a fraction needs a separator that every culture reads. -/
structure IsAllowed (printed : PrintedNumber) (number : NumberField) (culture : Culture) : Prop where
  sign : number.rejectSigned = true → printed.negative = false
  digits : max number.minDigits (Text.digitCount printed.whole) ≤ number.digitLimit
  range : number.optionalMillis = true → -2 ^ 31 ≤ printed.value ∧ printed.value < 2 ^ 31
  separator : printed.millis?.isSome = true →
    culture.decimalSeparator = "." ∨ culture.decimalSeparator = ","

theorem IsAllowed.fractionIn_eq {number : NumberField} (allowed : printed.IsAllowed number culture) :
    printed.fractionIn culture = [] ∧ printed.millis? = none ∨
      ∃ separator millis, (separator = '.' ∨ separator = ',') ∧ printed.millis? = some millis ∧
        printed.fractionIn culture = separator :: Text.padded culture.zeroDigit 3 millis := by
  unfold fractionIn
  cases millis : printed.millis? with
  | none => exact .inl ⟨rfl, rfl⟩
  | some count =>
      obtain separator | separator := allowed.separator (millis ▸ rfl)
      · exact .inr ⟨'.', count, .inl rfl, rfl, by rw [separator]; rfl⟩
      · exact .inr ⟨',', count, .inr rfl, rfl, by rw [separator]; rfl⟩

theorem textIn_append_ne_nil {minDigits : Nat} (rest : List Char) :
    printed.textIn culture minDigits ++ rest ≠ [] := by
  refine List.append_ne_nil_of_left_ne_nil (List.append_ne_nil_of_right_ne_nil _ ?_) _
  exact List.append_ne_nil_of_left_ne_nil (Text.padded_ne_nil _ _ _) _

def numeralIn (printed : PrintedNumber) (culture : Culture) (minDigits : Nat) :
    NumberField.Numeral where
  negative := printed.negative
  digits := Text.paddedDigits minDigits printed.whole
  millis? := printed.millis?
  length := (printed.textIn culture minDigits).length

theorem value_numeralIn {optionalMillis : Bool} (readable : printed.IsReadable optionalMillis)
    (culture : Culture) (minDigits : Nat) :
    (printed.numeralIn culture minDigits).value = printed.value := by
  have small := readable.whole
  have whole : Text.denoted (Text.paddedDigits minDigits printed.whole) = printed.whole := by
    apply Text.denoted_paddedDigits
    unfold Text.largestRead
    omega
  simp only [NumberField.Numeral.value, numeralIn, value, whole]

end PrintedNumber

namespace NumberField

variable {number : NumberField} {unit : PeriodField} {affix : Affix} {culture : Culture}
  {settings : ParseSettings} {printed : PrintedNumber} {period : Period}

theorem render_suffixed (suffixed : number.IsSuffixed unit affix) (culture : Culture)
    (printed : PrintedNumber) :
    number.render culture printed = printed.textIn culture number.minDigits ++
      (affix.textFor printed.affixNumber).toList := by
  unfold render PrintedNumber.textIn PrintedNumber.signIn PrintedNumber.fractionIn
  cases printed.millis? <;>
    simp only [suffixed.leading, suffixed.trailing, affixText, List.nil_append, List.append_nil,
      List.append_assoc]

/-- What a unit prints has at most 999 thousandths, has them only where the number allows them, and
otherwise is the amount of the unit. -/
theorem isReadable_of_printed (selector : number.selector = .period unit)
    (prints : number.printed? ⟨culture, .period period⟩ = some printed) :
    printed.IsReadable number.optionalMillis ∧
      (number.optionalMillis = false ∨ period.millis = 0 →
        printed = .ofInt (period.get unit).toInt) := by
  rw [printed?, selector] at prints
  simp only [PrintContext.period?, Option.bind_some, printedUnit?] at prints
  split at prints
  · next fraction =>
      rw [Bool.and_eq_true, bne_iff_ne] at fraction
      split at prints
      · cases prints
        have seconds := PrintedNumber.natAbs_toInt_le period.seconds
        have millis := PrintedNumber.natAbs_toInt_le period.millis
        rw [fraction.1]
        refine ⟨PrintedNumber.isReadable_ofMillis (by omega), fun plain => ?_⟩
        rcases plain with plain | plain
        · cases plain
        · exact absurd plain fraction.2
      · cases prints
  · split at prints
    · cases prints
      exact ⟨PrintedNumber.isReadable_ofInt _ _, fun _ => rfl⟩
    · cases prints

theorem millisAfter?_nil (culture : Culture) : millisAfter? culture [] = none := by
  have missing : ([".", ",", culture.decimalSeparator].map String.toList).find?
      (fun separator => separator ≠ [] ∧ separator.isPrefixOf []) = none := by
    rw [List.find?_eq_none]
    intro separator _
    cases separator <;> simp
  unfold millisAfter?
  simp only [missing]

theorem millisAfter?_fractionIn (ascii : culture.zeroDigit = '0')
    (readable : printed.IsReadable number.optionalMillis)
    (allowed : printed.IsAllowed number culture) :
    Text.startsWithDigit culture.zeroDigit (printed.fractionIn culture) = false ∧
      (if number.optionalMillis then millisAfter? culture (printed.fractionIn culture) else none) =
        printed.millis?.map fun millis => (millis, (printed.fractionIn culture).length) := by
  rcases allowed.fractionIn_eq with ⟨nothing, missing⟩ | ⟨separator, millis, known, found, shape⟩
  · rw [nothing, missing, millisAfter?_nil]
    exact ⟨rfl, ite_self none⟩
  · have small := readable.millis millis found
    have three : Text.digitCount millis ≤ 3 := Text.digitCount_le (by decide) small
    have length : (separator :: Text.padded '0' 3 millis).length = 4 := by
      rw [List.length_cons, Text.length_padded]
      omega
    rw [shape, found, readable.allowed (found ▸ rfl), if_pos rfl, ascii,
      millisAfter?_separator ascii known small, Option.map_some, length]
    rcases known with rfl | rfl <;> exact ⟨rfl, rfl⟩

theorem readNumeral_suffixed (suffixed : number.IsSuffixed unit affix)
    (ascii : culture.zeroDigit = '0') (clear : culture.HasClearSigns)
    (readable : printed.IsReadable number.optionalMillis) (allowed : printed.IsAllowed number culture)
    (position : Nat) (rest : List Char) :
    let text := printed.textIn culture number.minDigits
    number.readNumeral culture true (some text.length) ⟨position, text ++ rest⟩ =
      .ok (printed.numeralIn culture number.minDigits) := by
  intro text
  let body := Text.padded culture.zeroDigit number.minDigits printed.whole ++
    printed.fractionIn culture
  have start : Text.startsWithDigit '0' (body ++ rest) = true := by
    simp only [body, ascii, List.append_assoc]
    exact Text.startsWithDigit_padded Text.isZeroDigit_ascii _ _ _
  have length : text.length = (printed.signIn culture).length + body.length :=
    List.length_append
  -- The window ends behind the fraction, so that nothing of what follows is read.
  have shape : window (some text.length) (printed.signIn culture).length (body ++ rest) = body := by
    rw [window, length, Nat.add_sub_cancel_left, List.take_left]
  obtain ⟨stop, millis⟩ := millisAfter?_fractionIn ascii readable allowed
  have read := readNumeral_signed clear.digits number true (some text.length) position printed.whole
    (printed.fractionIn culture) (signBefore?_own ascii clear printed.negative start)
    (fun positive => by rw [positive]; rfl) (fun _ => by rw [suffixed.selector]; rfl)
    allowed.sign shape ((le_max_right _ _).trans allowed.digits)
    ((le_max_left _ _).trans allowed.digits) (.inl stop)
  have total : (printed.signIn culture).length +
      (Text.paddedDigits number.minDigits printed.whole).length +
        (printed.millis?.map fun _ => (printed.fractionIn culture).length).getD 0 = text.length := by
    rw [length, List.length_append, Text.length_padded, Text.length_paddedDigits, Nat.add_assoc]
    rcases allowed.fractionIn_eq with ⟨nothing, missing⟩ | ⟨_, _, _, found, _⟩
    · rw [nothing, missing]
      rfl
    · rw [found]
      rfl
  have text_eq : text ++ rest = printed.signIn culture ++ (body ++ rest) := List.append_assoc _ _ _
  rw [text_eq]
  refine read.trans ?_
  rw [millis]
  simp only [Option.map_map, Function.comp_def, Option.map_id', PrintedNumber.numeralIn,
    Except.ok.injEq, Numeral.mk.injEq, true_and]
  exact total

/-! ## Units that read their own texts -/

/-- The scan passes what the culture wrote, and the form that was printed is the one that is taken. -/
structure ScansOwn (culture : Culture) (affix : Affix) (printed : PrintedNumber) : Prop where
  ascii : culture.zeroDigit = '0'
  sign : printed.negative = true →
    ∀ c ∈ culture.negativeSign.toList, Affix.isNumberCharacter c = true
  form : affix.TakesWhole (affix.textFor printed.affixNumber).toList

theorem isNumberCharacter_textIn (ascii : culture.zeroDigit = '0')
    (sign : ∀ c ∈ printed.signIn culture, Affix.isNumberCharacter c = true)
    (allowed : printed.IsAllowed number culture) :
    ∀ c ∈ printed.textIn culture number.minDigits, Affix.isNumberCharacter c = true := by
  have fraction : ∀ c ∈ printed.fractionIn culture, Affix.isNumberCharacter c = true := by
    rcases allowed.fractionIn_eq with ⟨nothing, _⟩ | ⟨separator, millis, known, _, shape⟩
    · rw [nothing]
      exact List.forall_mem_nil _
    · rw [shape, ascii]
      refine List.forall_mem_cons.mpr ⟨?_, PrintedNumber.isNumberCharacter_padded 3 millis⟩
      rcases known with rfl | rfl <;> rfl
  rw [PrintedNumber.textIn, ascii]
  refine List.forall_mem_append.mpr ⟨sign, List.forall_mem_append.mpr ⟨?_, fraction⟩⟩
  exact PrintedNumber.isNumberCharacter_padded _ _

/-- Only ASCII digits are in front of the letters of ASCII. -/
theorem zeroDigit_of_beforeLetters {zero : Char} (digits : IsZeroDigit zero) {digit : Nat}
    (small : digit < 10) (low : Text.BeforeLetters (Text.digitChar zero digit)) : zero = '0' := by
  rcases digits with ascii | ⟨outside, run⟩
  · exact ascii
  · have valid := run digit small
    have code : (Text.digitChar zero digit).toNat = zero.toNat + digit := by
      rw [Text.digitChar, if_pos valid, Char.toNat_ofNat, if_pos valid]
    have high := low.2
    omega

/-- A scan that ends behind a digit has passed the sign in front of it and the digit, so the digits
are those of ASCII. -/
theorem ascii_of_scanned (clear : culture.HasClearSigns) {minDigits characters : Nat}
    {rest : List Char}
    (passed : ∀ c ∈ (printed.textIn culture minDigits ++ rest).take characters,
      Affix.isNumberCharacter c = true)
    (digit : ∃ c ∈ (printed.textIn culture minDigits ++ rest).take characters,
      Text.digitValue? culture.zeroDigit c ≠ none) :
    culture.zeroDigit = '0' ∧
      ∀ c ∈ printed.signIn culture, Affix.isNumberCharacter c = true := by
  obtain ⟨first, others, shape⟩ :=
    List.exists_cons_of_ne_nil (Text.paddedDigits_ne_nil minDigits printed.whole)
  have small : first < 10 :=
    Text.paddedDigits_lt minDigits printed.whole first (shape ▸ List.mem_cons_self)
  have split : printed.textIn culture minDigits ++ rest =
      printed.signIn culture ++ (Text.digitChar culture.zeroDigit first ::
        (others.map (Text.digitChar culture.zeroDigit) ++ printed.fractionIn culture ++ rest)) := by
    rw [PrintedNumber.textIn, Text.padded_eq_map, shape, List.map_cons, List.append_assoc,
      List.cons_append, List.cons_append]
  rw [split] at passed digit
  -- Up to the end of the sign there is no digit.
  have beyond : (printed.signIn culture).length < characters := by
    by_contra within
    obtain ⟨c, member, value⟩ := digit
    rw [List.take_append_of_le_length (Nat.le_of_not_lt within)] at member
    refine value (?_ : _ = none)
    have signed := List.mem_of_mem_take member
    unfold PrintedNumber.signIn at signed
    split at signed
    · exact clear.negativeSign.2 c signed
    · cases signed
  obtain ⟨more, rfl⟩ := Nat.exists_eq_add_of_lt beyond
  rw [Nat.add_assoc, List.take_length_add_append, List.take_succ_cons, List.forall_mem_append,
    List.forall_mem_cons] at passed
  obtain ⟨sign, own, _⟩ := passed
  have low := Affix.beforeLetters_of_isNumberCharacter own
  exact ⟨zeroDigit_of_beforeLetters clear.digits small low, sign⟩

theorem read_own (suffixed : number.IsSuffixed unit affix)
    (clear : settings.culture.HasClearSigns) (type : settings.periodType = .standard)
    (readable : printed.IsReadable number.optionalMillis)
    (range : -2 ^ 31 ≤ printed.value ∧ printed.value < 2 ^ 31)
    (allowed : printed.IsAllowed number settings.culture)
    (scans : ScansOwn settings.culture affix printed) (bucket : Bucket) :
    let text := number.render settings.culture printed
    number.read settings (.start text) bucket =
      .ok (⟨Text.utf8Length text, []⟩, putUnit unit printed bucket) := by
  intro text
  let lead := printed.textIn settings.culture number.minDigits
  let suffix := (affix.textFor printed.affixNumber).toList
  have shape : text = lead ++ suffix := render_suffixed suffixed settings.culture printed
  have sign : ∀ c ∈ printed.signIn settings.culture, Affix.isNumberCharacter c = true := by
    unfold PrintedNumber.signIn
    split
    · next negative => exact scans.sign negative
    · exact List.forall_mem_nil _
  have found := Affix.distance?_own suffixed.clear
    (isNumberCharacter_textIn scans.ascii sign allowed) printed.affixNumber []
  have taken := readNumeral_suffixed suffixed scans.ascii clear readable allowed 0 suffix
  have known (field : PeriodField) : settings.periodType.supports field = true := by
    rw [type]
    cases field <;> rfl
  have stored := store_printed suffixed.selector
    (PrintedNumber.value_numeralIn readable settings.culture number.minDigits) rfl rfl range
    (fun _ => known unit) (fun _ _ => known .millis) bucket
  have skipped := scans.form.skip? (Text.utf8Length lead)
  have given : lead ++ suffix ≠ [] := PrintedNumber.textIn_append_ne_nil suffix
  rw [List.append_nil] at found
  rw [shape, Cursor.start, read_suffixed_eq_ok_iff suffixed given]
  refine ⟨printed.numeralIn settings.culture number.minDigits, found, taken, stored, ?_⟩
  have advanced : Cursor.advance ⟨0, lead ++ suffix⟩
      (printed.numeralIn settings.culture number.minDigits).length =
        ⟨Text.utf8Length lead, suffix⟩ := by
    rw [← Nat.zero_add (Text.utf8Length lead)]
    exact Cursor.advance_append 0 lead suffix
  rw [advanced, skipped, Text.utf8Length_append]

theorem scansOwn_of_read (suffixed : number.IsSuffixed unit affix)
    (clear : settings.culture.HasClearSigns)
    (allowed : printed.IsAllowed number settings.culture) {bucket after : Bucket} {next : Cursor}
    (read : number.read settings (.start (number.render settings.culture printed)) bucket =
      .ok (next, after)) (finished : next.rest = []) :
    ScansOwn settings.culture affix printed := by
  let lead := printed.textIn settings.culture number.minDigits
  let suffix := (affix.textFor printed.affixNumber).toList
  have given : lead ++ suffix ≠ [] := PrintedNumber.textIn_append_ne_nil suffix
  rw [render_suffixed suffixed, Cursor.start, read_suffixed_eq_ok_iff suffixed given] at read
  obtain ⟨numeral, found, taken, _, skipped⟩ := read
  obtain ⟨ascii, sign⟩ := ascii_of_scanned clear
    (Affix.isNumberCharacter_of_distance? found) (exists_digit_of_readNumeral taken)
  -- All characters of the number are passed by the scan, which therefore has stopped behind it.
  have own := Affix.distance?_own suffixed.clear
    (isNumberCharacter_textIn ascii sign allowed) printed.affixNumber []
  rw [List.append_nil] at own
  have length : numeral.length = lead.length := Option.some.inj (found.symm.trans own)
  have advanced : Cursor.advance ⟨0, lead ++ suffix⟩ numeral.length =
      ⟨0 + Text.utf8Length lead, suffix⟩ := by
    rw [length]
    exact Cursor.advance_append 0 lead suffix
  rw [advanced] at skipped
  refine ⟨ascii, fun negative => ?_, Affix.takesWhole_of_skip? skipped finished⟩
  rwa [PrintedNumber.signIn, if_pos negative] at sign

/-- A unit behind which an affix is printed reads its own text, and stores what was printed, exactly if
the scan passes the number as the culture writes it and the affix is taken whole. Without milliseconds
of its own to print it stores the amount of the unit. -/
theorem parse_print_suffixed (suffixed : number.IsSuffixed unit affix)
    (clear : settings.culture.HasClearSigns) (type : settings.periodType = .standard)
    (prints : number.printed? ⟨settings.culture, .period period⟩ = some printed)
    (allowed : printed.IsAllowed number settings.culture) (state : ParseState) :
    let text := number.print ⟨settings.culture, .period period⟩
    (ScansOwn settings.culture affix printed →
      number.parse settings (.start text) state =
        (.advanced ⟨Text.utf8Length text, []⟩,
          { state with bucket := putUnit unit printed state.bucket })) ∧
    (¬ ScansOwn settings.culture affix printed → ∀ next after,
      number.parse settings (.start text) state = (.advanced next, after) → next.rest ≠ []) ∧
    (number.optionalMillis = false ∨ period.millis = 0 →
      putUnit unit printed state.bucket = state.bucket.setPeriodField unit (period.get unit)) := by
  intro text
  have rendered : text = number.render settings.culture printed := by
    simp only [text, print, prints]
  obtain ⟨readable, amount⟩ := isReadable_of_printed suffixed.selector prints
  have value (whole : number.optionalMillis = false ∨ period.millis = 0) :
      printed.value = (period.get unit).toInt := by
    rw [amount whole, PrintedNumber.value_ofInt]
  have range : -2 ^ 31 ≤ printed.value ∧ printed.value < 2 ^ 31 := by
    cases optional : number.optionalMillis with
    | true => exact allowed.range optional
    | false =>
        rw [value (.inl optional)]
        exact ⟨(period.get unit).le_toInt, (period.get unit).toInt_lt⟩
  refine ⟨fun scans => ?_, fun other next after parsed finished => other ?_, fun whole => ?_⟩
  · rw [rendered, parse, read_own suffixed clear type readable range allowed scans]
  · rw [rendered, parse] at parsed
    split at parsed
    · next read =>
        cases parsed
        exact scansOwn_of_read suffixed clear allowed read finished
    · cases parsed
      rw [Cursor.start, render_suffixed suffixed] at finished
      exact absurd finished (PrintedNumber.textIn_append_ne_nil _)
    · exact absurd parsed (ParseState.fail_ne_advanced _)
  · have single : printed.millis? = none := by
      rw [amount whole]
      rfl
    simp only [putUnit, single, value whole, Int32.ofInt_toInt]

def wordedDays : NumberField := .ofUnit .days (.singleton .days) (.plural " day" " days") false

theorem wordedDays_isSuffixed : wordedDays.IsSuffixed .days (.plural " day" " days") :=
  ofUnit_isSuffixed (by decide)

theorem arabic_hasClearSigns : arabicSettings.culture.HasClearSigns where
  digits := .inr (by decide)
  negativeSign := ⟨by decide, List.forall_mem_singleton.mpr rfl⟩
  positiveSign := ⟨by decide, List.forall_mem_singleton.mpr rfl⟩

theorem wordedDays_allowed (culture : Culture) {amount : Int} (oneDigit : amount.natAbs < 10) :
    (PrintedNumber.ofInt amount).IsAllowed wordedDays culture where
  sign := nofun
  digits := by
    have count : Text.digitCount amount.natAbs ≤ 1 := Text.digitCount_le Nat.one_pos oneDigit
    exact max_le (by decide) (count.trans (by decide))
  range := nofun
  separator := nofun

/-- Five days ago reads itself in ASCII digits. Arabic digits are not passed by the scan. -/
theorem parse_print_suffixed_wordedDays :
    (∃ after, wordedDays.parse { culture := .invariant } (.start "-5 days".toList) {} =
        (.advanced ⟨7, []⟩, after) ∧ after.bucket.periodFields .days = some (-5)) ∧
      ∀ next after, wordedDays.parse arabicSettings (.start "٥ days".toList) {} =
        (.advanced next, after) → next.rest ≠ [] := by
  constructor
  · have clear : Culture.invariant.HasClearSigns :=
      ⟨.inl rfl, ⟨by decide, List.forall_mem_singleton.mpr rfl⟩,
        ⟨by decide, List.forall_mem_singleton.mpr rfl⟩⟩
    have scans : ScansOwn .invariant (.plural " day" " days") (.ofInt (-5)) :=
      ⟨rfl, fun _ => List.forall_mem_singleton.mpr rfl, " days", rfl, rfl⟩
    have text : wordedDays.print ⟨.invariant, .period (.of .days (-5))⟩ = "-5 days".toList := by
      decide +kernel
    obtain ⟨reads, _, amount⟩ := @parse_print_suffixed wordedDays .days _
      { culture := .invariant } (.ofInt (-5)) (.of .days (-5)) wordedDays_isSuffixed clear rfl rfl
      (wordedDays_allowed _ (by decide)) {}
    have read := reads scans
    rw [text, amount (.inl rfl)] at read
    exact ⟨_, read, rfl⟩
  · have text : wordedDays.print ⟨arabicSettings.culture, .period (.of .days 5)⟩ =
        "٥ days".toList := by
      decide +kernel
    obtain ⟨_, unread, _⟩ := @parse_print_suffixed wordedDays .days _ arabicSettings (.ofInt 5)
      (.of .days 5) wordedDays_isSuffixed arabic_hasClearSigns rfl rfl
      (wordedDays_allowed _ (by decide)) {}
    rw [text] at unread
    exact unread fun scans => absurd scans.ascii (by decide)

/-- Not every unit with an affix behind it reads its own text, although its digits are allowed. -/
theorem suffixed_unread :
    ¬ ∀ (number : NumberField) (unit : PeriodField) (affix : Affix) (settings : ParseSettings)
        (period : Period) (printed : PrintedNumber), number.IsSuffixed unit affix →
      settings.culture.HasClearSigns → settings.periodType = .standard →
      period.type = .standard →
      number.printed? ⟨settings.culture, .period period⟩ = some printed →
      printed.IsAllowed number settings.culture → number.optionalMillis = false →
        ∃ after, number.parse settings
            (.start (number.print ⟨settings.culture, .period period⟩)) {} =
          (.advanced ⟨Text.utf8Length (number.print ⟨settings.culture, .period period⟩), []⟩, after) ∧
            after.bucket.periodFields unit = some (period.get unit) := by
  intro reads
  have text : wordedDays.print ⟨arabicSettings.culture, .period (.of .days 5)⟩ =
      "٥ days".toList := by
    decide +kernel
  have unread : wordedDays.parse arabicSettings (.start "٥ days".toList) {} =
      (.advanced ⟨0, "٥ days".toList⟩, {}) := rfl
  obtain ⟨after, read, _⟩ := reads wordedDays .days _ arabicSettings (.of .days 5) (.ofInt 5)
    wordedDays_isSuffixed arabic_hasClearSigns rfl rfl rfl (wordedDays_allowed _ (by decide)) rfl
  rw [text, unread] at read
  cases read

end NumberField

end ChronoText
