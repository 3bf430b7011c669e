import ChronoText.Proofs.Formatter.EntryPoints
import ChronoText.Proofs.Parsing.GivenTexts

/-! Display texts that patterns read back. The sortable pattern reads the display text of every
date-time to the second, signs and all, with nine digits of a fraction behind it that of every other
date-time, and with an offset behind it that of every date-time at an offset. -/

set_option autoImplicit false

namespace ChronoText

namespace Pattern

/-- The sortable pattern, with a fraction of a second and an offset behind it. -/
def displayPattern (fraction offset : Bool) : String :=
  StandardPattern.sortable.expansion .invariant ++ (if fraction then "'.'SSSSSSSSS" else "")
    ++ if offset then "ZZ" else ""

def tailElements (fraction offset : Bool) : List Element :=
  (if fraction then [.literal ⟨.quoted, "."⟩, .fraction ⟨9⟩] else [])
    ++ if offset then [.offset .extended] else []

def displayElements (fraction offset : Bool) : List Element :=
  let dash : Element := .literal ⟨.quoted, "-"⟩
  let colon : Element := .literal ⟨.quoted, ":"⟩
  .number (.ofDateTime .year 4 6) :: dash :: .number (.ofDateTime .monthOfYear 2 2) :: dash
    :: .number (.ofDateTime .dayOfMonth 2 2) :: .literal ⟨.quoted, "T"⟩
    :: .number (.ofDateTime .hourOfDay 2 2) :: colon :: .number (.ofDateTime .minuteOfHour 2 2)
    :: colon :: .number (.ofDateTime .secondOfMinute 2 2) :: tailElements fraction offset

theorem elements_displayPattern (fraction offset : Bool) :
    elements .invariant (displayPattern fraction offset) = .ok (displayElements fraction offset) := by
  cases fraction <;> cases offset <;> cbv

theorem anyRequiresOffset_display (fraction offset : Bool) :
    Element.anyRequiresOffset (displayElements fraction offset) = offset := by
  cases fraction <;> cases offset <;> rfl

theorem elements_sortable : elements .invariant "s" = .ok (displayElements false false) := by
  cbv

/-! ## Reading display texts -/

section Reading

variable {settings : ParseSettings} {value : LocalDateTime}

def offsetText (offset? : Option Offset) : List Char :=
  (offset?.map Offset.text).getD []

theorem not_startsWithDigit_offsetText (offset? : Option Offset) :
    Text.startsWithDigit '0' (offsetText offset?) = false := by
  cases offset? with
  | none => rfl
  | some offset =>
      show Text.startsWithDigit '0' (offset.render (some ':')) = false
      rw [Offset.render_eq]
      split <;> rfl

/-- What stands behind the seconds: a fraction unless it is zero, and an offset if there is one. -/
theorem spelled_tail (plain : settings.IsPlain) (valid : value.IsValid) (offset? : Option Offset) :
    Spelled settings (record value offset?)
      (tailElements (decide (value.time.nanosecond ≠ 0)) offset?.isSome)
      (LocalDateTime.fractionText value.time.nanosecond ++ offsetText offset?) := by
  have offset : Spelled settings (record value offset?)
      (if offset?.isSome then [.offset .extended] else []) (offsetText offset?) := by
    cases offset? with
    | none => exact .nil
    | some offset =>
        have alone : Spelled settings (record value (some offset)) [.offset .extended]
            (offset.text ++ []) :=
          .cons (Element.not_isSeparator_offset _) (OffsetStyle.takes_text settings offset) .nil
        rwa [List.append_nil] at alone
  by_cases zero : value.time.nanosecond = 0
  · simp only [tailElements, zero]
    exact offset
  · have whole : FractionField.cut ⟨9⟩ value.time.nanosecond = value.time.nanosecond :=
      FractionField.cut_nine _
    have fraction := FractionField.takes_trimmed plain zero valid.time.nanosecond_le
      (not_startsWithDigit_offsetText offset?)
    have nonzero : decide (value.time.nanosecond ≠ 0) = true := decide_eq_true zero
    rw [nonzero, LocalDateTime.fractionText_eq zero]
    show Spelled _ _ _ (".".toList ++ (_ ++ offsetText offset?))
    refine .cons (Element.not_isSeparator_literal _) (Literal.takes plain "." _) (.cons ?_ ?_ offset)
    · exact Element.not_isSeparator_fraction _
    · simp only [record, whole]
      exact fraction

theorem not_startsWithDigit_tail (nanosecond : Nat) (offset? : Option Offset) :
    Text.startsWithDigit '0' (LocalDateTime.fractionText nanosecond ++ offsetText offset?) = false := by
  unfold LocalDateTime.fractionText
  split
  · exact not_startsWithDigit_offsetText offset?
  · rfl

theorem spelled_display (plain : settings.IsPlain) (valid : value.IsValid)
    (offset? : Option Offset) :
    Spelled settings (record value offset?)
      (displayElements (decide (value.time.nanosecond ≠ 0)) offset?.isSome)
      (value.text ++ offsetText offset?) := by
  have tail := spelled_tail plain valid offset?
  have shape : value.text ++ offsetText offset? =
      LocalDateTime.yearText value.date.year ++ ("-".toList
        ++ (Text.padded '0' 2 value.date.month ++ ("-".toList
        ++ (Text.padded '0' 2 value.date.day ++ ("T".toList
        ++ (Text.padded '0' 2 value.time.hour ++ (":".toList
        ++ (Text.padded '0' 2 value.time.minute ++ (":".toList
        ++ (Text.padded '0' 2 value.time.second
        ++ (LocalDateTime.fractionText value.time.nanosecond ++ offsetText offset?))))))))))) := by
    simp only [LocalDateTime.text, List.append_assoc, List.cons_append]
    rfl
  have admitted := Iso.fieldValue_admitted valid
  obtain ⟨date, hourLe, minuteLe, secondLe, nanosecondLe⟩ := valid
  have monthLe := date.month_le
  have dayLe := Nat.le_trans date.day_le (Gregorian.daysInMonth_le_thirtyOne _ _)
  have two {field : DateTimeField} {amount : Nat} (small : amount < 100)
      (own : field.admits amount = true) {rest : List Char}
      (stop : Text.startsWithDigit '0' rest = false) :
      Element.Takes settings (Text.padded '0' 2 amount) rest (.number (.ofDateTime field 2 2))
        (·.setField field amount) :=
    NumberField.takes_padded plain (by decide) small (by unfold Text.largestRead; omega) own stop
  have literal (text : String) (rest : List Char) := Literal.takes plain text rest
  have ends := not_startsWithDigit_tail value.time.nanosecond offset?
  rw [shape]
  refine .cons (Element.not_isSeparator_number _)
    (NumberField.takes_yearText plain (LocalDateTime.natAbs_year_lt date) (admitted .year) rfl) ?_
  refine .cons (Element.not_isSeparator_literal _) (literal "-" _) ?_
  refine .cons (Element.not_isSeparator_number _) (two (by omega) (admitted .monthOfYear) rfl) ?_
  refine .cons (Element.not_isSeparator_literal _) (literal "-" _) ?_
  refine .cons (Element.not_isSeparator_number _) (two (by omega) (admitted .dayOfMonth) rfl) ?_
  refine .cons (Element.not_isSeparator_literal _) (literal "T" _) ?_
  refine .cons (Element.not_isSeparator_number _) (two (by omega) (admitted .hourOfDay) rfl) ?_
  refine .cons (Element.not_isSeparator_literal _) (literal ":" _) ?_
  refine .cons (Element.not_isSeparator_number _) (two (by omega) (admitted .minuteOfHour) rfl) ?_
  refine .cons (Element.not_isSeparator_literal _) (literal ":" _) ?_
  exact .cons (Element.not_isSeparator_number _) (two (by omega) (admitted .secondOfMinute) ends) tail

theorem kept_display {fraction : Bool} (cut : fraction = false → value.time.nanosecond = 0)
    (offset : Bool) : kept (displayElements fraction offset) value = value := by
  have last : ((lastFraction? (displayElements fraction offset)).map
      (·.cut value.time.nanosecond)).getD 0 = value.time.nanosecond := by
    cases fraction with
    | true =>
        have whole : FractionField.cut ⟨9⟩ value.time.nanosecond = value.time.nanosecond :=
          FractionField.cut_nine _
        cases offset <;> exact whole
    | false => cases offset <;> exact (cut rfl).symm
  show LocalDateTime.mk value.date
    ⟨value.time.hour, value.time.minute, value.time.second, _⟩ = value
  rw [last]

theorem toLocal_display (valid : value.IsValid) {fraction : Bool}
    (cut : fraction = false → value.time.nanosecond = 0) (offset : Bool) (offset? : Option Offset) :
    (recordedBucket (displayElements fraction offset) value offset?).toLocal = .ok value := by
  have compiled := elements_isCompiled (elements_displayPattern fraction offset)
  have made : (recordedBucket (displayElements fraction offset) value offset?).toLocal =
      .ok (kept (displayElements fraction offset) value) := by
    cases fraction <;> cases offset <;>
      exact toLocal_of_recorded compiled valid rfl rfl rfl rfl rfl rfl
  rwa [kept_display cut] at made

end Reading

end Pattern

namespace DateTimeFormatter

open Pattern

def display (handle : Nat) (fraction offset : Bool) : DateTimeFormatter :=
  let tree : FormatTree := ⟨handle, displayElements fraction offset⟩
  { printer? := some tree, parser? := some tree }

theorem ofPattern_display (handle : Nat) {pattern : String} {fraction offset : Bool}
    (compiled : elements .invariant pattern = .ok (displayElements fraction offset)) :
    ofPattern handle .invariant pattern = .ok (display handle fraction offset) := by
  rw [ofPattern, compiled]
  rfl

/-- The display text sets the date-time, and the offset behind it if there is one. -/
theorem sets_display (handle : Nat) {value : LocalDateTime} (valid : value.IsValid)
    (offset? : Option Offset) :
    (display handle (decide (value.time.nanosecond ≠ 0)) offset?.isSome).Sets
      (String.ofList (value.text ++ offsetText offset?)) value offset? := by
  have cut : decide (value.time.nanosecond ≠ 0) = false → value.time.nanosecond = 0 :=
    fun unread => of_not_not (of_decide_eq_false unread)
  have plain : (display handle (decide (value.time.nanosecond ≠ 0))
      offset?.isSome).parseSettings.IsPlain := ⟨rfl, rfl⟩
  have given : value.text ++ offsetText offset? ≠ [] := by
    refine List.append_ne_nil_of_left_ne_nil ?_ _
    rw [LocalDateTime.text]
    have inner {before after : List Char} {c : Char} : before ++ c :: after ≠ [] :=
      List.append_ne_nil_of_right_ne_nil _ (List.cons_ne_nil c after)
    exact List.append_ne_nil_of_left_ne_nil inner _
  have read := (spelled_display plain valid offset?).parseWhole rfl given "OffsetDateTime"
  rw [foldl_record_empty (elements_isCompiled (elements_displayPattern _ _))] at read
  refine ⟨_, _, rfl, ?_, toLocal_display valid cut offset?.isSome offset?, ?_⟩
  · rw [String.toList_ofList]
    exact read
  · rw [recordedBucket, anyRequiresOffset_display]
    cases offset? <;> rfl

/-- Display texts are written without a division by zero, read back by patterns, and bounded by their
hints. The sortable pattern reads the text of a date-time that is whole seconds, and with a fraction
behind it that of every other date-time; with an offset behind that, the text of the date-time at any
offset. -/
theorem displayTexts_readBack (handle : Nat) {value : LocalDateTime} (valid : value.IsValid) :
    let pattern := StandardPattern.sortable.expansion .invariant ++
      if value.time.nanosecond = 0 then "" else "'.'SSSSSSSSS"
    (∃ formatter,
      ofPattern handle .invariant (if value.time.nanosecond = 0 then "s" else pattern) =
        .ok formatter ∧
      formatter.parseLocal (String.ofList value.text) = .ok value) ∧
    (∀ offset, ∃ formatter, ofPattern handle .invariant (pattern ++ "ZZ") = .ok formatter ∧
      formatter.withOffsetParsed.parse (String.ofList (OffsetDateTime.mk value offset).text) =
        .ok ⟨value, offset⟩) ∧
    value.written? = some value.text ∧
    value.lengthHint.Encloses (String.ofList value.text).utf8ByteSize ∧
    (∀ offset : Offset, offset.lengthHint.Encloses (String.ofList offset.text).utf8ByteSize ∧
      (OffsetDateTime.mk value offset).lengthHint.Encloses
        (String.ofList (OffsetDateTime.mk value offset).text).utf8ByteSize) ∧
    ∀ instant : Instant, instant.lengthHint.Encloses (String.ofList instant.text).utf8ByteSize := by
  intro pattern
  have size (text : List Char) : (String.ofList text).utf8ByteSize = Text.utf8Length text := by
    rw [← Text.utf8Length_toList, String.toList_ofList]
  have ending (offset : Bool) : pattern ++ (if offset then "ZZ" else "") =
      displayPattern (decide (value.time.nanosecond ≠ 0)) offset := by
    have fraction : (if value.time.nanosecond = 0 then "" else "'.'SSSSSSSSS") =
        if decide (value.time.nanosecond ≠ 0) then "'.'SSSSSSSSS" else "" := by
      simp only [decide_eq_true_eq, ite_not]
    show _ ++ _ ++ _ = _ ++ _ ++ _
    rw [fraction]
  refine ⟨?_, ?_, LocalDateTime.written?_eq valid, ?_, ?_, ?_⟩
  · refine ⟨display handle (decide (value.time.nanosecond ≠ 0)) false, ofPattern_display handle ?_, ?_⟩
    · split
      · next zero =>
          simp only [zero]
          exact elements_sortable
      · have whole := ending false
        rw [if_neg Bool.false_ne_true, String.append_empty] at whole
        rw [whole]
        exact elements_displayPattern _ _
    · have sets := sets_display handle valid none
      rw [offsetText, Option.map_none, Option.getD_none, List.append_nil] at sets
      exact (parseLocal_eq_ok_iff rfl).mpr ⟨none, sets⟩
  · intro offset
    refine ⟨display handle (decide (value.time.nanosecond ≠ 0)) true, ofPattern_display handle ?_, ?_⟩
    · have whole := ending true
      rw [if_pos rfl] at whole
      rw [whole]
      exact elements_displayPattern _ _
    · have read := (sets_display handle valid (some offset)).tryParse_kept
      exact congrArg (· >>= failureAsError) read
  · rw [size]
    exact LocalDateTime.lengthHint_encloses valid
  · intro offset
    rw [size, size, offset.lengthHint_eq]
    exact ⟨LengthHint.encloses_exact _, OffsetDateTime.lengthHint_encloses valid⟩
  · intro instant
    rw [size]
    exact instant.lengthHint_encloses

/-- A leap day of a year with a sign, and hundredths of a second. -/
theorem displayTexts_readBack_tenThousand :
    let value : LocalDateTime := ⟨⟨10000, 2, 29⟩, ⟨23, 59, 59, 120000000⟩⟩
    value.IsValid ∧ value.text = "+010000-02-29T23:59:59.12".toList ∧
    value.lengthHint.Encloses (String.ofList value.text).utf8ByteSize ∧
    ∃ formatter,
      ofPattern 0 .invariant "yyyy'-'MM'-'dd'T'HH':'mm':'ss'.'SSSSSSSSSZZ" = .ok formatter ∧
      formatter.withOffsetParsed.parse (String.ofList (OffsetDateTime.mk value .smallest).text) =
        .ok ⟨value, .smallest⟩ := by
  intro value
  have valid : value.IsValid :=
    ⟨⟨by decide, by decide, by decide, by decide, by decide, by decide⟩,
      ⟨by decide, by decide, by decide, by decide⟩⟩
  obtain ⟨_, withOffset, _, enclosed, _, _⟩ := displayTexts_readBack 0 valid
  exact ⟨valid, by decide +kernel, enclosed, withOffset .smallest⟩

end DateTimeFormatter

end ChronoText
