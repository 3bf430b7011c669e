import ChronoText.Formatter.DateTime
import ChronoText.Proofs.Parsing.Components
import ChronoText.Proofs.Parsing.StatedComponents

/-! Years of two digits. Of the hundred years around a pivot, just one ends in two given digits, and
that is the year they are read as. So a date that was printed with two digits of its year comes back
if its year is one of the hundred, and otherwise no other date can come back than the one that shares
its last two digits, its month and its day. -/

set_option autoImplicit false

namespace ChronoText

open Text (IsZeroDigit)

/-! ## Two digits of a year -/

namespace TwoDigitYear

/-- The hundred years that start fifty years before the pivot. -/
def InWindow (pivotYear year : Int) : Prop :=
  pivotYear - 50 ≤ year ∧ year ≤ pivotYear + 49

theorem eq_resolve_iff {lastDigits : Int} (least : 0 ≤ lastDigits) (greatest : lastDigits ≤ 99)
    {pivotYear year : Int} :
    year = resolve lastDigits pivotYear ↔
      InWindow pivotYear year ∧ year ≡ lastDigits [ZMOD 100] := by
  simp only [InWindow, Int.ModEq, resolve]
  split <;> omega

theorem eq_resolve_emod_iff {value pivotYear year : Int} :
    year = resolve (value % 100) pivotYear ↔
      InWindow pivotYear year ∧ year ≡ value [ZMOD 100] := by
  rw [eq_resolve_iff (by omega) (by omega)]
  simp only [Int.ModEq, Int.emod_emod]

/-- Two digits are taken whatever follows, and stand for a year near the pivot. -/
theorem readsBack {settings : ParseSettings} {context : PrintContext}
    (digits : IsZeroDigit context.culture.zeroDigit) (same : settings.culture = context.culture)
    {year : TwoDigitYear} {value : Int} (shown : context.fieldValue? year.field = some value)
    (rest : List Char) :
    Element.ReadsBack settings context rest (.twoDigitYear year)
      (·.setField year.field (resolve (value % 100) settings.pivotYear)) := by
  intro position state
  let lastDigits := (value % 100).toNat
  let zero := context.culture.zeroDigit
  have small : lastDigits < 100 := by omega
  have text : Element.print context (.twoDigitYear year) = Text.padded zero 2 lastDigits := by
    simp only [Element.print, TwoDigitYear.print, shown, Option.getD_some, lastDigits, zero]
  have length : (Text.padded zero 2 lastDigits).length = 2 := by
    rw [Text.padded_eq_map, Text.paddedDigits_two small]
    rfl
  have taken : Text.leadingDigits zero ((Text.padded zero 2 lastDigits ++ rest).take 2) =
      [lastDigits / 10, lastDigits % 10] := by
    rw [List.take_left' length, ← Text.paddedDigits_two small,
      ← List.append_nil (Text.padded zero 2 lastDigits)]
    exact Text.leadingDigits_padded digits _ _ rfl
  have whole : ((10 * (lastDigits / 10) + lastDigits % 10 : Nat) : Int) = value % 100 := by omega
  have advanced := Cursor.advance_append position (Text.padded zero 2 lastDigits) rest
  rw [length] at advanced
  simp only [Element.parse, text, TwoDigitYear.read, same, zero] at taken advanced ⊢
  simp only [taken, whole, advanced]
  rfl

end TwoDigitYear

/-! ## Dates alone -/

namespace Bucket

def ofDate (year : Int) (month day : Nat) : Bucket :=
  ((empty.setField .year year).setField .monthOfYear month).setField .dayOfMonth day

/-- The components of a date make that date at midnight, if there is one. -/
theorem toLocal_ofDate_eq_ok_iff {year : Int} {month day : Nat} (monthGe : 1 ≤ month)
    (monthLe : month ≤ 12) (dayGe : 1 ≤ day) (dayLe : day ≤ 31) {value : LocalDateTime} :
    (ofDate year month day).toLocal = .ok value ↔
      value.IsValid ∧ value = ⟨⟨year, month, day⟩, .midnight⟩ := by
  have inRange : (ofDate year month day).InRange := by
    refine ((inRange_empty.setField rfl).setField ?_).setField ?_ <;>
      simp only [DateTimeField.admits, DateTimeField.parseRange?, Bool.and_eq_true,
        decide_eq_true_eq] <;>
      omega
  rw [toLocal_eq_ok_iff inRange]
  refine and_congr_right fun _ => ⟨?_, ?_⟩
  · rintro ⟨date, _, time⟩
    obtain ⟨ownYear, ownMonth, ownDay⟩ : (ofDate year month day).StatesCalendarDate value.date := date
    obtain ⟨hour, minute, second, nanosecond⟩ :
      (ofDate year month day).StatesClock value.time := time
    obtain ⟨⟨_, _, _⟩, ⟨_, _, _, _⟩⟩ := value
    cases ownYear
    cases Int.ofNat.inj ownMonth
    cases Int.ofNat.inj ownDay
    cases Int.ofNat.inj hour
    cases Int.ofNat.inj minute
    cases Int.ofNat.inj second
    cases Int.ofNat.inj nanosecond
    rfl
  · rintro rfl
    refine ⟨⟨rfl, rfl, rfl⟩, ?_, ⟨rfl, rfl, rfl, rfl⟩⟩
    rintro weekday ⟨⟩

end Bucket

namespace Pattern

/-- The year in two digits, the month and the day. -/
def twoDigitYearElements : List Element :=
  [.twoDigitYear ⟨.year⟩, .literal .dateSeparator, .number (.ofDateTime .monthOfYear 2 2),
    .literal .dateSeparator, .number (.ofDateTime .dayOfMonth 2 2)]

theorem elements_twoDigitYear :
    Pattern.elements .invariant "yy/MM/dd" = .ok twoDigitYearElements := by
  cbv

/-- A printed date is read to a year in the window of the pivot, the month and the day. -/
theorem parseWhole_twoDigitYear (settings : ParseSettings) (context : PrintContext)
    (parsing : settings.culture = .invariant) (printing : context.culture = .invariant)
    (styles : settings.styles = {}) {value : LocalDateTime} {offset? : Option Offset} {handle : Nat}
    (source : context.source = .dateTime value offset? (Iso.calendar handle))
    (valid : value.IsValid) (wanted : String) :
    parseWhole twoDigitYearElements settings
        (Element.print context (.composite twoDigitYearElements)) wanted =
      .ok (.ofDate (TwoDigitYear.resolve (value.date.year % 100) settings.pivotYear)
        value.date.month value.date.day) := by
  have plain : context.culture.WritesPlainNumbers :=
    printing ▸ Culture.invariant_writesPlainNumbers
  have same : settings.culture = context.culture := parsing.trans printing.symm
  have exact_ : settings.styles.innerBlank = false := by rw [styles]
  have shown : context.fieldValue? .year = some value.date.year := by
    rw [PrintContext.fieldValue?, source]
    rfl
  have slash (rest : List Char) : Element.ReadsBack settings context rest
      (.literal .dateSeparator) id := Literal.readsBack same .dateSeparator exact_ rest
  have number {field : DateTimeField} (letter : field.HasLetter) (rest : List Char)
      (stop : Text.startsWithDigit context.culture.zeroDigit rest = false) :
      Element.ReadsBack settings context rest
        (.number (.ofDateTime field 2 (Iso.maximumDigits field)))
        (·.setField field (Iso.fieldValue value field)) :=
    NumberField.readsBack_component plain same source valid (.number false letter)
      (fun fixed => nomatch fixed) (.inr stop)
  have resolved : (Literal.dateSeparator.resolve context.culture).toList = ['/'] := by
    rw [printing]
    rfl
  have stop (before : Nat) (rest : List Element) : Text.startsWithDigit context.culture.zeroDigit
      (Element.printFrom context before (.literal .dateSeparator :: rest) ++ []) = false := by
    rw [Element.printFrom_element _ _ (Element.not_isSeparator_literal _), Element.print,
      Literal.print, resolved, printing]
    rfl
  have legible : Legible settings context [] 0 false twoDigitYearElements
      (((((id ∘ (·.setField .dayOfMonth value.date.day)) ∘ id) ∘
        (·.setField .monthOfYear value.date.month)) ∘ id) ∘
          (·.setField .year
            (TwoDigitYear.resolve (value.date.year % 100) settings.pivotYear))) :=
    .element (Element.not_isSeparator_twoDigitYear _)
      (TwoDigitYear.readsBack plain.digits same shown _) <|
    .element (Element.not_isSeparator_literal _) (slash _) <|
    .element (Element.not_isSeparator_number _) (number (by exact trivial) _ (stop _ _)) <|
    .element (Element.not_isSeparator_literal _) (slash _) <|
    .element (Element.not_isSeparator_number _) (number (by exact trivial) _ rfl) .reached
  have printed : Element.print context (.literal .dateSeparator) ≠ [] := by
    rw [Element.print, Literal.print, resolved]
    exact List.cons_ne_nil _ _
  have second : .literal .dateSeparator ∈ twoDigitYearElements :=
    List.mem_cons_of_mem _ List.mem_cons_self
  refine legible.parseWhole_print (by rw [styles]) ?_ wanted
  exact Element.printFrom_ne_nil second (Element.not_isSeparator_literal _) printed 0

end Pattern

namespace DateTimeFormatter

open Pattern

def twoDigitYear (handle : Nat) : DateTimeFormatter where
  printer? := some ⟨handle, twoDigitYearElements⟩
  parser? := some ⟨handle, twoDigitYearElements⟩

theorem ofPattern_twoDigitYear (handle : Nat) :
    ofPattern handle .invariant "yy/MM/dd" = .ok (twoDigitYear handle) := by
  rw [ofPattern, elements_twoDigitYear]
  rfl

/-- The text of a date is read as the date with the year near the pivot, if there is one. -/
theorem printLocal_twoDigitYear (handle : Nat) (pivotYear : Int) {value : LocalDateTime}
    (valid : value.IsValid) :
    ∃ text, ((twoDigitYear handle).withPivotYear pivotYear).printLocal value = .ok text ∧
      ∀ result, ((twoDigitYear handle).withPivotYear pivotYear).parseLocal text = .ok result ↔
        result.IsValid ∧ result = ⟨{ value.date with
          year := TwoDigitYear.resolve (value.date.year % 100) pivotYear }, .midnight⟩ := by
  let formatter := (twoDigitYear handle).withPivotYear pivotYear
  let text := Element.print (formatter.printContext value none) (.composite twoDigitYearElements)
  refine ⟨String.ofList text, rfl, fun result => ?_⟩
  have whole := parseWhole_twoDigitYear formatter.parseSettings
    (formatter.printContext value none) rfl rfl rfl rfl valid "LocalDateTime"
  have date := valid.date
  have dayLe := Nat.le_trans date.day_le (Gregorian.daysInMonth_le_thirtyOne _ _)
  rw [← Bucket.toLocal_ofDate_eq_ok_iff date.month_ge date.month_le date.day_ge dayLe]
  show failureAsError (Except.bind (parseWhole twoDigitYearElements formatter.parseSettings
    (String.ofList text).toList "LocalDateTime") Bucket.toLocal) = _ ↔ _
  rw [String.toList_ofList, whole]
  exact failureAsError_eq_ok_iff

/-- A year of two digits is that of the hundred years around the pivot which ends in them. So a date
that is printed with them reads to the dates of one of those years with the same last two digits, the
same month and the same day, and to nothing else: to the date itself if its year is one of them. -/
theorem parseLocal_printLocal_twoDigitYear :
    (∀ lastDigits pivotYear year : Int, 0 ≤ lastDigits → lastDigits ≤ 99 →
      (year = TwoDigitYear.resolve lastDigits pivotYear ↔
        TwoDigitYear.InWindow pivotYear year ∧ year ≡ lastDigits [ZMOD 100])) ∧
    ∀ handle, ∃ formatter, ofPattern handle .invariant "yy/MM/dd" = .ok formatter ∧
      ∀ (pivotYear : Int) (value : LocalDateTime), value.IsValid →
        ∃ text, (formatter.withPivotYear pivotYear).printLocal value = .ok text ∧
          (TwoDigitYear.InWindow pivotYear value.date.year →
            (formatter.withPivotYear pivotYear).parseLocal text = .ok ⟨value.date, .midnight⟩) ∧
          ∀ result, (formatter.withPivotYear pivotYear).parseLocal text = .ok result ↔
            result.IsValid ∧ TwoDigitYear.InWindow pivotYear result.date.year ∧
              result.date.year ≡ value.date.year [ZMOD 100] ∧
              result.date.month = value.date.month ∧ result.date.day = value.date.day ∧
              result.time = .midnight := by
  refine ⟨fun _ _ _ least greatest => TwoDigitYear.eq_resolve_iff least greatest, ?_⟩
  intro handle
  refine ⟨twoDigitYear handle, ofPattern_twoDigitYear handle, fun pivotYear value valid => ?_⟩
  obtain ⟨text, printed, read⟩ := printLocal_twoDigitYear handle pivotYear valid
  refine ⟨text, printed, ?own, ?others⟩
  case own =>
    intro inWindow
    have same : value.date.year = TwoDigitYear.resolve (value.date.year % 100) pivotYear :=
      TwoDigitYear.eq_resolve_emod_iff.mpr ⟨inWindow, .refl _⟩
    have midnight : TimeOfDay.IsValid .midnight := ⟨by decide, by decide, by decide, by decide⟩
    rw [read, ← same]
    exact ⟨⟨valid.date, midnight⟩, rfl⟩
  case others =>
    intro result
    rw [read, ← and_assoc (b := _ ≡ _ [ZMOD 100]), ← TwoDigitYear.eq_resolve_emod_iff]
    refine and_congr_right fun _ => ⟨?_, ?_⟩
    · rintro rfl
      exact ⟨rfl, rfl, rfl, rfl⟩
    · obtain ⟨⟨_, _, _⟩, _⟩ := result
      rintro ⟨rfl, rfl, rfl, rfl⟩
      rfl

/-- A day before the year zero, whose last two digits are counted upwards. -/
theorem parseLocal_printLocal_twoDigitYear_negative :
    (∀ year : Int, year = TwoDigitYear.resolve 99 20 ↔
      TwoDigitYear.InWindow 20 year ∧ year ≡ 99 [ZMOD 100]) ∧
    ∃ formatter, ofPattern 0 .invariant "yy/MM/dd" = .ok formatter ∧
      ∃ text, (formatter.withPivotYear 20).printLocal ⟨⟨-1, 2, 28⟩, .midnight⟩ = .ok text ∧
        (formatter.withPivotYear 20).parseLocal text = .ok ⟨⟨-1, 2, 28⟩, .midnight⟩ := by
  obtain ⟨years, formatters⟩ := parseLocal_printLocal_twoDigitYear
  obtain ⟨formatter, made, dates⟩ := formatters 0
  have valid : LocalDateTime.IsValid ⟨⟨-1, 2, 28⟩, .midnight⟩ :=
    ⟨⟨by decide, by decide, by decide, by decide, by decide, by decide⟩,
      ⟨by decide, by decide, by decide, by decide⟩⟩
  obtain ⟨text, printed, own, _⟩ := dates 20 _ valid
  exact ⟨fun year => years 99 20 year (by decide) (by decide), formatter, made, text, printed,
    own ⟨by decide, by decide⟩⟩

end DateTimeFormatter

end ChronoText
