import ChronoText.Proofs.Parsing.Components
import ChronoText.Proofs.Temporal.DisplayTexts

/-! Texts that elements take although the elements did not print them. An element takes a text if,
whatever has been read before and with what follows behind it, reading takes just that text. Elements
that take their texts one behind the other, without separators, take the whole. -/

set_option autoImplicit false

namespace ChronoText

open Text (IsZeroDigit)

namespace Element

/-- With `rest` behind the text, reading takes just the text and changes the bucket by `effect`. -/
def Takes (settings : ParseSettings) (text rest : List Char) (element : Element)
    (effect : Bucket → Bucket) : Prop :=
  ∀ position state,
    parse settings ⟨position, text ++ rest⟩ state element =
      (.advanced ⟨position + Text.utf8Length text, rest⟩,
        { state with bucket := effect state.bucket })

theorem ReadsBack.takes {settings : ParseSettings} {context : PrintContext} {rest text : List Char}
    {element : Element} {effect : Bucket → Bucket}
    (readsBack : ReadsBack settings context rest element effect)
    (printed : print context element = text) : Takes settings text rest element effect :=
  printed ▸ readsBack

end Element

/-- The elements take a text from its start to its end, each of them its part, and put into the bucket
what `record` says. -/
inductive Spelled (settings : ParseSettings) (record : Bucket → Element → Bucket) :
    List Element → List Char → Prop where
  | nil : Spelled settings record [] []
  | cons {element elements text rest} :
      ¬ element.IsSeparator →
      element.Takes settings text rest (record · element) →
      Spelled settings record elements rest →
      Spelled settings record (element :: elements) (text ++ rest)

namespace Spelled

variable {settings : ParseSettings} {record : Bucket → Element → Bucket} {elements : List Element}
  {text : List Char}

theorem parseFrom (spelled : Spelled settings record elements text) (segment position : Nat)
    (state : ParseState) :
    Element.parseFrom settings segment [] ⟨position, text⟩ state elements =
      (.advanced ⟨position + Text.utf8Length text, []⟩,
        { state with bucket := elements.foldl record state.bucket }) := by
  induction spelled generalizing position state with
  | nil => rw [Element.parseFrom]; rfl
  | cons plain takes _ ih =>
      rw [Element.parseFrom_element plain (takes position state), ih, List.foldl_cons,
        Text.utf8Length_append, Nat.add_assoc]

theorem parseWhole (spelled : Spelled settings record elements text)
    (start : settings.styles.leadingBlank = false) (given : text ≠ []) (wanted : String) :
    ChronoText.parseWhole elements settings text wanted = .ok (elements.foldl record .empty) :=
  parseWhole_of_finished start given (spelled.parseFrom 0 0 {}) wanted

end Spelled

/-! ## Elements -/

/-- What the settings have in common with those of a formatter that was just made: plain signs and
digits, and no blank characters in place of others. -/
structure ParseSettings.IsPlain (settings : ParseSettings) : Prop where
  culture : settings.culture = .invariant
  innerBlank : settings.styles.innerBlank = false

variable {settings : ParseSettings} {rest : List Char}

theorem Literal.takes (plain : settings.IsPlain) (text : String) (rest : List Char) :
    Element.Takes settings text.toList rest (.literal ⟨.quoted, text⟩) id := by
  have readsBack : Element.ReadsBack settings
      ⟨.invariant, .dateTime .unixEpoch none (Iso.calendar 0)⟩ rest (.literal ⟨.quoted, text⟩) id :=
    Literal.readsBack plain.culture _ plain.innerBlank rest
  exact readsBack.takes rfl

namespace NumberField

/-- A component takes a sign that is found, or none, and digits up to the next character. -/
theorem takes_digits (plain : settings.IsPlain) {field : DateTimeField} {minDigits maxDigits : Nat}
    (sign? : Option (Bool × Nat)) (negative : Bool) (sign : List Char) {digits : List Nat}
    {value : Int} (small : ∀ digit ∈ digits, digit < 10) (given : digits ≠ [])
    (found : (if field.isSigned then
      signBefore? .invariant (sign ++ (digits.map (Text.digitChar '0') ++ rest)) else none) = sign?)
    (taken : sign?.getD (false, 0) = (negative, sign.length))
    (readable : Text.valueOfDigits digits ≤ Text.largestRead)
    (denoted : (if negative then -(Text.valueOfDigits digits : Int) else Text.valueOfDigits digits) =
      value)
    (admitted : field.admits value = true) (fits : digits.length ≤ max maxDigits minDigits)
    (stop : Text.startsWithDigit '0' rest = false) :
    Element.Takes settings (sign ++ digits.map (Text.digitChar '0')) rest
      (.number (.ofDateTime field minDigits maxDigits)) (·.setField field value) := by
  intro position state
  have zeroDigit : Text.IsZeroDigit Culture.invariant.zeroDigit := Text.isZeroDigit_ascii
  have read := readNumeral_digits zeroDigit
    (.ofDateTime field minDigits maxDigits) true none position small given rest found taken nofun rfl
    fits nofun (.inl stop)
  have own : Numeral.value ⟨negative, digits, none, sign.length + digits.length⟩ = value := by
    rw [Numeral.value, Text.denoted_eq_min, Nat.min_eq_left readable]
    exact denoted
  have length : sign.length + digits.length =
      (sign ++ digits.map (Text.digitChar '0')).length := by
    rw [List.length_append, List.length_map]
  have some : sign ++ digits.map (Text.digitChar '0') ≠ [] :=
    List.append_ne_nil_of_right_ne_nil _ (mt List.map_eq_nil_iff.mp given)
  rw [← List.append_assoc, ← plain.culture] at read
  exact parse_of_numeral some read length own admitted state

/-- Without a sign, the padded digits of a number are taken for it. -/
theorem takes_padded (plain : settings.IsPlain) {field : DateTimeField}
    {minDigits maxDigits value : Nat} (some : 0 < minDigits) (small : value < 10 ^ minDigits)
    (readable : value ≤ Text.largestRead) (admitted : field.admits value = true)
    (stop : Text.startsWithDigit '0' rest = false) :
    Element.Takes settings (Text.padded '0' minDigits value) rest
      (.number (.ofDateTime field minDigits maxDigits)) (·.setField field value) := by
  have length : (Text.paddedDigits minDigits value).length = minDigits := by
    rw [Text.length_paddedDigits, Nat.max_eq_left (Text.digitCount_le some small)]
  have unsigned := signBefore?_signText Culture.invariant_writesPlainNumbers false
    (Text.startsWithDigit_padded Text.isZeroDigit_ascii minDigits value rest)
  rw [Text.padded_eq_map] at unsigned ⊢
  refine takes_digits plain none false []
    (Text.paddedDigits_lt _ _) (Text.paddedDigits_ne_nil _ _) ?_ rfl ?_ ?_ admitted
    (length.trans_le (Nat.le_max_right _ _)) stop
  · exact (if_congr Iff.rfl unsigned rfl).trans (ite_self _)
  · rwa [Text.valueOfDigits_paddedDigits]
  · rw [Text.valueOfDigits_paddedDigits]
    rfl

theorem signBefore?_invariant (negative : Bool) {body : List Char}
    (start : Text.startsWithDigit '0' body = true) :
    signBefore? .invariant ((if negative then '-' else '+') :: body) = some (negative, 1) := by
  cases negative with
  | true => exact signBefore?_signText Culture.invariant_writesPlainNumbers true start
  | false =>
      have minusText : "-".toList = ['-'] := rfl
      have plusText : "+".toList = ['+'] := rfl
      have minus : Text.startsWithCaseless ['-'] ('+' :: body) = false :=
        Text.startsWithCaseless_eq_false [] body (by decide) (by decide)
      have plus : Text.startsWithCaseless ['+'] ('+' :: body) = true :=
        Text.startsWithCaseless_append ['+'] body
      simp [signBefore?, Culture.invariant, minusText, plusText, minus, plus, start]

/-- A year takes its text of four digits, or of a sign and six. -/
theorem takes_yearText (plain : settings.IsPlain) {year : Int} (small : year.natAbs < 1000000)
    (admitted : DateTimeField.year.admits year = true)
    (stop : Text.startsWithDigit '0' rest = false) :
    Element.Takes settings (LocalDateTime.yearText year) rest (.number (.ofDateTime .year 4 6))
      (·.setField .year year) := by
  unfold LocalDateTime.yearText
  split
  · next unsigned =>
      have same : (year.toNat : Int) = year := Int.toNat_of_nonneg unsigned.1
      have readable : year.toNat ≤ Text.largestRead := by
        unfold Text.largestRead
        omega
      have taken : Element.Takes settings _ rest (.number (.ofDateTime .year 4 6)) _ :=
        takes_padded plain (by decide) (by omega : year.toNat < 10 ^ 4) readable
          (same.symm ▸ admitted) stop
      rwa [same] at taken
  · next signed =>
      have length : (Text.paddedDigits 6 year.natAbs).length = 6 := by
        rw [Text.length_paddedDigits, Nat.max_eq_left (Text.digitCount_le (by decide) small)]
      have start := Text.startsWithDigit_padded Text.isZeroDigit_ascii 6 year.natAbs rest
      have found := signBefore?_invariant (decide (year < 0)) start
      rw [Text.padded_eq_map] at found ⊢
      simp only [decide_eq_true_eq] at found
      refine takes_digits plain _ _ [if year < 0 then '-' else '+']
        (Text.paddedDigits_lt _ _) (Text.paddedDigits_ne_nil _ _) found rfl ?_ ?_ admitted
        (by rw [length]; decide) stop
      · rw [Text.valueOfDigits_paddedDigits]
        unfold Text.largestRead
        omega
      · rw [Text.valueOfDigits_paddedDigits]
        simp only [decide_eq_true_eq]
        split <;> omega

end NumberField

/-- Trailing zeros that a fraction lacks are made up for. -/
theorem FractionField.takes_trimmed (plain : settings.IsPlain) {nanosecond : Nat}
    (some : nanosecond ≠ 0) (small : nanosecond ≤ 999999999)
    (stop : Text.startsWithDigit '0' rest = false) :
    Element.Takes settings ((Text.trimmed (Text.paddedDigits 9 nanosecond)).map (Text.digitChar '0'))
      rest (.fraction ⟨9⟩) (·.setField .nanoOfSecond nanosecond) := by
  intro position state
  have given : Text.trimmed (Text.paddedDigits 9 nanosecond) ≠ [] :=
    mt Text.trimmed_paddedDigits_eq_nil_iff.mp some
  have nine : (Text.paddedDigits 9 nanosecond).length = 9 := by
    rw [Text.length_paddedDigits, Nat.max_eq_left (Text.digitCount_le (by decide) (by omega))]
  have digitsLt := Text.paddedDigits_lt 9 nanosecond
  have value := Text.valueOfDigits_paddedDigits 9 nanosecond
  obtain ⟨count, whole⟩ := Text.exists_trimmed_append_zeros (Text.paddedDigits 9 nanosecond)
  generalize Text.trimmed (Text.paddedDigits 9 nanosecond) = digits at given whole ⊢
  rw [whole] at nine digitsLt value
  rw [List.length_append, List.length_replicate] at nine
  have missing : 9 - digits.length = count := by omega
  rw [Text.valueOfDigits_append_zeros, ← missing] at value
  have read := read_digits settings ⟨9⟩ (plain.culture ▸ .inl rfl)
    (List.forall_mem_append.mp digitsLt).1 given (by dsimp only; omega) rest
    (.inr (plain.culture ▸ stop)) position state.bucket
  rw [plain.culture, value] at read
  exact congrArg state.settle read

theorem OffsetStyle.takes_text (settings : ParseSettings) (offset : Offset) :
    Element.Takes settings offset.text [] (.offset .extended) (·.setOffset offset) := by
  have readsBack : Element.ReadsBack settings
      ⟨.invariant, .dateTime .unixEpoch (some offset) (Iso.calendar 0)⟩ [] (.offset .extended)
      (·.setOffset offset) := readsBack rfl (.inr rfl)
  exact readsBack.takes rfl

end ChronoText
