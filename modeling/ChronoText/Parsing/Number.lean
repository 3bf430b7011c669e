import ChronoText.Element.Basic
import ChronoText.Parsing.State
import ChronoText.Text.Digits

/-! Reading of numbers. A component of a date-time has to be there, and so has a unit of a period
under the policy `always` or behind its leading affix. Any other unit is there only if its trailing
affix stands right behind its digits; otherwise the element reads nothing. -/

set_option autoImplicit false

namespace ChronoText

namespace Affix

def skip? (affix : Affix) (cursor : Cursor) : Option Cursor :=
  affix.forms.findSome? cursor.skip?

def starts (affix : Affix) (text : List Char) : Bool :=
  affix.forms.any fun form => Text.startsWithCaseless form.toList text

/-- The characters that a scan for an affix passes: those of a number in ASCII. -/
def isNumberCharacter (c : Char) : Bool :=
  ('0' ≤ c && c ≤ '9') || c == '.' || c == ',' || c == '+' || c == '-'

/-- The number of characters before the first form of the affix, where those characters can all
belong to a number. -/
def distance? (affix : Affix) : List Char → Option Nat
  | [] => none
  | c :: rest =>
    if affix.starts (c :: rest) then some 0
    else if isNumberCharacter c then (affix.distance? rest).map (· + 1)
    else none

end Affix

namespace NumberField

/-- Why a number was not read: it is not there, which is no failure, or it is wrong. The
components that were read before a number turned out wrong stay in the bucket. -/
inductive Interruption where
  | absent
  | failed (fault : Fault) (bucket : Bucket)

def named (number : NumberField) (kind : FailureKind) : Failure :=
  { kind, params := [.text number.selector.name] }

/-- Whether the number has to be there before any affix is seen. -/
def isRequired (number : NumberField) : Bool :=
  number.selector.periodField?.isNone || number.zeroPolicy = .always

def affixMismatch (affix : Affix) : Failure :=
  { kind := .affixMismatch, params := [.text (affix.textFor 0)] }

/-- The sign before a digit: whether it is negative, and its length. The signs of the culture go
before the ASCII ones. -/
def signBefore? (culture : Culture) (text : List Char) : Option (Bool × Nat) :=
  let signs : List (String × Bool) :=
    [(culture.negativeSign, true), ("-", true), (culture.positiveSign, false), ("+", false)]
  signs.findSome? fun (sign, negative) =>
    let length := sign.toList.length
    if length ≠ 0 ∧ Text.startsWithCaseless sign.toList text
        ∧ Text.startsWithDigit culture.zeroDigit (text.drop length) then
      some (negative, length)
    else none

/-- The thousandths behind a decimal separator, and the length of separator and digits. Digits
after the third are read and dropped. -/
def millisAfter? (culture : Culture) (text : List Char) : Option (Nat × Nat) :=
  let separators := [".", ",", culture.decimalSeparator].map String.toList
  match separators.find? fun separator => separator ≠ [] ∧ separator.isPrefixOf text with
  | none => none
  | some separator =>
    let digits := Text.leadingDigits culture.zeroDigit (text.drop separator.length)
    let thousandths := (digits ++ [0, 0, 0]).take 3
    if digits = [] then none
    else some (thousandths.foldl (10 * · + ·) 0, separator.length + digits.length)

structure Numeral where
  negative : Bool
  digits : List Nat
  millis? : Option Nat
  /-- The number of characters, sign and fraction included. -/
  length : Nat
  deriving DecidableEq

namespace Numeral

def value (numeral : Numeral) : Int :=
  if numeral.negative then -(Text.denoted numeral.digits) else Text.denoted numeral.digits

end Numeral

/-- The numeral at a cursor. Digits and fraction end at the latest `before?` characters on, where
the trailing affix stands. -/
def readNumeral (number : NumberField) (culture : Culture) (required : Bool)
    (before? : Option Nat) (start : Cursor) : Except (Option Fault) Numeral := do
  let zero := culture.zeroDigit
  let sign? := if number.selector.isSigned then signBefore? culture start.rest else none
  if number.rejectSigned && sign?.isSome then
    throw (some ⟨start.position, number.named .signUnexpected⟩)
  let (negative, signLength) := sign?.getD (false, 0)
  let digitsStart := start.advance signLength
  let window :=
    match before? with
    | some characters => digitsStart.rest.take (characters - signLength)
    | none => digitsStart.rest
  let maxDigits := if number.fixedWidth then number.minDigits else number.maxParsedDigits
  let digits := Text.leadingDigits zero (window.take maxDigits)
  let behind := window.drop digits.length
  if digits = [] then
    throw (if required then some ⟨start.position, number.named .numberMismatch⟩ else none)
  if number.fixedWidth && digits.length < number.minDigits then
    throw (some ⟨digitsStart.position, number.named .numberMismatch⟩)
  if number.selector.periodField?.isSome && digits.length = maxDigits
      && Text.startsWithDigit zero behind then
    let failure := (number.named .excessDigits).withParam (.count maxDigits)
    throw (some ⟨digitsStart.position, failure⟩)
  let fraction? := if number.optionalMillis then millisAfter? culture behind else none
  pure
    { negative
      digits
      millis? := fraction?.map (·.1)
      length := signLength + digits.length + (fraction?.map (·.2)).getD 0 }

/-- Puts a unit into the bucket. A unit that the period type does not know can only be zero. -/
def storeUnit (type : PeriodType) (bucket : Bucket) (unit : PeriodField) (value : Int32) :
    Except Failure Bucket :=
  if value ≠ 0 ∧ type.supports unit = false then throw (Bucket.unsupportedField unit type)
  else pure (bucket.setPeriodField unit value)

/-- Puts the value of a numeral into the bucket, with a failure and the bucket as it then is if
that is not possible. -/
def store (number : NumberField) (type : PeriodType) (numeral : Numeral) (bucket : Bucket) :
    Except (Failure × Bucket) Bucket :=
  let value := numeral.value
  let outOfRange : Failure :=
    { kind := .valueOutOfRange, params := [.integer value, .text number.selector.name] }
  match number.selector with
  | .dateTime field =>
    if field.admits value then pure (bucket.setField field value) else throw (outOfRange, bucket)
  | .period unit => do
    if value < -0x80000000 ∨ 0x80000000 ≤ value then throw (outOfRange, bucket)
    let stored ← (storeUnit type bucket unit (.ofInt value)).mapError fun failure =>
      (failure, bucket)
    match numeral.millis? with
    | none => pure stored
    | some millis =>
      let signed : Int := if numeral.negative then -millis else millis
      (storeUnit type stored .millis (.ofInt signed)).mapError fun failure => (failure, stored)

/-- The cursor behind the number and the bucket with its value, or why there is no number. -/
def read (number : NumberField) (settings : ParseSettings) (start : Cursor) (bucket : Bucket) :
    Except Interruption (Cursor × Bucket) := do
  let fail (position : Nat) (failure : Failure) : Except Interruption Unit :=
    throw (.failed ⟨position, failure⟩ bucket)
  if start.rest = [] then
    if number.isRequired then fail start.position (number.named .numberMismatch)
    else throw .absent
  -- The leading affix.
  let (numberStart, required) ←
    match number.leading with
    | none => pure (start, number.isRequired)
    | some affix =>
      match affix.skip? start with
      | some behind => pure (behind, true)
      | none =>
        throw (if number.isRequired then
          .failed ⟨start.position, affixMismatch affix⟩ bucket else .absent)
  -- Where the trailing affix stands, if it decides whether the number is there.
  let before? ←
    match number.trailing with
    | none => pure none
    | some affix =>
      if required then pure none
      else
        match affix.distance? numberStart.rest with
        | some characters => pure (some characters)
        | none => throw .absent
  let required := required || before?.isSome
  match number.selector with
  | .dateTime _ => pure ()
  | .period unit =>
    if !required && !settings.periodType.supports unit then throw .absent
  -- The number itself. A trailing affix further on belongs to another number.
  let numeral ←
    (number.readNumeral settings.culture required before? numberStart).mapError fun
      | some fault => Interruption.failed fault bucket
      | none => .absent
  match before? with
  | some characters => if characters ≠ numeral.length then throw .absent
  | none => pure ()
  let bucket ←
    (number.store settings.periodType numeral bucket).mapError fun (failure, bucket) =>
      Interruption.failed ⟨numberStart.position, failure⟩ bucket
  -- The trailing affix.
  let numberEnd := numberStart.advance numeral.length
  match number.trailing with
  | none => pure (numberEnd, bucket)
  | some affix =>
    match affix.skip? numberEnd with
    | some behind => pure (behind, bucket)
    | none => throw (.failed ⟨numberEnd.position, affixMismatch affix⟩ bucket)

def parse (number : NumberField) (settings : ParseSettings) (cursor : Cursor)
    (state : ParseState) : ParseOutcome × ParseState :=
  match number.read settings cursor state.bucket with
  | .ok (next, bucket) => (.advanced next, { state with bucket })
  | .error .absent => (.advanced cursor, state)
  | .error (.failed fault bucket) => { state with bucket }.fail fault

end NumberField

end ChronoText
