import ChronoText.Formatter.PeriodBuilder
import ChronoText.Proofs.Parsing.PeriodParts
import ChronoText.Proofs.Parsing.Resolution
import ChronoText.Proofs.Parsing.UnitAmounts

/-! Periods in English words are read back. Whichever units are printed, the text alone tells them
from those that are not: between two printed units there is a separator, and the word behind a number
belongs to one unit only. -/

set_option autoImplicit false

namespace ChronoText

namespace PeriodFormatter

open ChronoText.NumberField (recordUnits)

/-- Commas between units, and `and` before the last. -/
def wordSeparator : Separator := ⟨", ", " and ", .always⟩

def wordFields : PeriodFieldSet := .ofList PeriodField.all

def wordNumber (entry : PeriodField × Affix) : Element :=
  .number (.ofUnit entry.1 wordFields entry.2 false)

def separatedWords (units : List (PeriodField × Affix)) : List Element :=
  units.flatMap fun entry => [.separator wordSeparator, wordNumber entry]

def wordElements : List Element :=
  wordNumber (.years, .plural " year" " years") :: separatedWords unitWords.tail

theorem parser?_words (handle : Nat) (type : PeriodType) :
    ((words handle).withParseType type).parser? = some ⟨handle, wordElements⟩ := rfl

/-- Words that can be told apart, each with a plural in `s`. -/
structure WordsDiffer (units : List (PeriodField × Affix)) : Prop where
  plural : ∀ entry ∈ units, ∃ one, entry.2 = .plural one (one ++ "s")
  clear : ∀ entry ∈ units, entry.2.startsNoNumber = true
  diverge : units.Pairwise fun first second => first.2.divergesFromAffix second.2 = true

theorem WordsDiffer.tail {entry : PeriodField × Affix} {units : List (PeriodField × Affix)}
    (differ : WordsDiffer (entry :: units)) : WordsDiffer units where
  plural := (List.forall_mem_cons.mp differ.plural).2
  clear := (List.forall_mem_cons.mp differ.clear).2
  diverge := (List.pairwise_cons.mp differ.diverge).2

theorem unitWords_differ : WordsDiffer unitWords where
  plural := by
    intro entry member
    simp only [unitWords, List.mem_cons, List.not_mem_nil, or_false] at member
    rcases member with rfl | rfl | rfl | rfl | rfl | rfl | rfl | rfl <;> exact ⟨_, rfl⟩
  clear := by decide
  diverge := by decide +kernel

/-! ## What the words print -/

variable {period : Period}

theorem wordNumber_isPart (entry : PeriodField × Affix) : (wordNumber entry).IsPeriodPart :=
  .unit

theorem separatedWords_areParts (units : List (PeriodField × Affix)) :
    ∀ element ∈ separatedWords units, element.IsPeriodPart := by
  intro element member
  obtain ⟨entry, _, own⟩ := List.mem_flatMap.mp member
  rcases List.mem_cons.mp own with rfl | own
  · exact .separator (fun absurd => nomatch absurd)
  · rw [List.mem_singleton.mp own]
    exact wordNumber_isPart entry

theorem textBetween?_wordSeparator {before after : Nat} (fields : before ≠ 0) (more : after ≠ 0) :
    wordSeparator.textBetween? before after = some " and " ∨
      wordSeparator.textBetween? before after = some ", " := by
  simp only [Separator.textBetween?, wordSeparator, fields, more, or_self, if_false]
  split
  · exact .inl rfl
  · exact .inr rfl

/-- Behind a unit that was printed there is no `s` that could belong to its word. -/
theorem printFrom_separatedWords_noPlural (units : List (PeriodField × Affix)) {before : Nat}
    (fields : before ≠ 0) :
    Text.startsWithCaseless ['s']
      (Element.printFrom period.printContext before (separatedWords units)) = false := by
  cases units with
  | nil => rfl
  | cons entry units =>
      have shape : separatedWords (entry :: units) =
          .separator wordSeparator :: wordNumber entry :: separatedWords units := rfl
      by_cases nothing : Element.fieldCountOf period.printContext
          (wordNumber entry :: separatedWords units) = 0
      · have empty : Element.printFrom period.printContext before
            (separatedWords (entry :: units)) = [] := by
          rw [Element.printFrom_eq_nil_iff (separatedWords_areParts _), shape, Element.fieldCountOf,
            nothing]
          rfl
        rw [empty]
        rfl
      · rw [shape, Element.printFrom_separator]
        rcases textBetween?_wordSeparator fields nothing with text | text
        · rw [text]
          exact Text.startsWithCaseless_eq_false [] _ (.inr (by decide)) (by decide)
        · rw [text]
          exact Text.startsWithCaseless_eq_false [] _ (.inr (by decide)) (by decide)

theorem stopsIn_separatedWords {affix : Affix} {units : List (PeriodField × Affix)}
    (clear : ∀ entry ∈ units, entry.2.startsNoNumber = true)
    (diverge : ∀ entry ∈ units, affix.divergesFromAffix entry.2 = true) :
    affix.StopsIn 0 (separatedWords units) := by
  induction units with
  | nil => exact .nil
  | cons entry units ih =>
      obtain ⟨ownClear, othersClear⟩ := List.forall_mem_cons.mp clear
      obtain ⟨ownDiverge, othersDiverge⟩ := List.forall_mem_cons.mp diverge
      exact .unprinted rfl (.unit ownClear ownDiverge (ih othersClear othersDiverge))

/-! ## Reading the words -/

variable {settings : ParseSettings}

theorem wordNumber_readsBack (culture : settings.culture = .invariant)
    (type : settings.periodType = period.type) {entry : PeriodField × Affix}
    {units : List (PeriodField × Affix)} (differ : WordsDiffer (entry :: units)) :
    Element.ReadsBack settings period.printContext
      (Element.printFrom period.printContext
        (Element.fieldCount period.printContext (wordNumber entry)) (separatedWords units) ++ [])
      (wordNumber entry)
      ((NumberField.ofUnit entry.1 wordFields entry.2 false).recordUnit entry.1 period) := by
  obtain ⟨unit, affix⟩ := entry
  obtain ⟨clear, othersClear⟩ := List.forall_mem_cons.mp differ.clear
  obtain ⟨diverge, _⟩ := List.pairwise_cons.mp differ.diverge
  obtain ⟨⟨one, plural⟩, _⟩ := List.forall_mem_cons.mp differ.plural
  have count : Element.fieldCount period.printContext (wordNumber (unit, affix)) =
      if ZeroPolicy.rarelyLast.prints unit period wordFields then 1 else 0 := by
    rw [wordNumber, Element.fieldCount, NumberField.fieldCount, NumberField.printed?_ofUnit]
    split <;> rfl
  rw [List.append_nil, count]
  refine NumberField.readsBack_amount culture type clear ?before ?missing
  case before =>
    intro prints
    rw [if_pos prints]
    have stop : Text.startsWithCaseless ['s']
        (Element.printFrom period.printContext 1 (separatedWords units)) = false :=
      printFrom_separatedWords_noPlural units Nat.one_ne_zero
    have plural : affix = .plural one (one ++ "s") := plural
    rw [plural]
    exact Affix.readsBefore_plural rfl stop
  case missing =>
    intro hidden
    rw [if_neg hidden]
    exact (stopsIn_separatedWords othersClear diverge).distance?_printFrom clear

theorem wordSeparator_findsTexts : wordSeparator.FindsTexts := by
  intro text printed position rest
  have forms : wordSeparator.forms = [" and ", ", "] := by decide
  have printed : text = ", " ∨ text = " and " := printed
  have found := Cursor.skip?_append position text rest
  unfold Separator.skip?
  rw [forms]
  rcases printed with rfl | rfl
  · have other : Cursor.skip? ⟨position, ", ".toList ++ rest⟩ " and " = none := by
      apply Cursor.skip?_eq_none
      exact Text.startsWithCaseless_eq_false _ _ (.inl (by decide)) (by decide)
    rw [List.findSome?_cons, other, List.findSome?_cons, found]
  · rw [List.findSome?_cons, found]

theorem separatedWords_legible (culture : settings.culture = .invariant)
    (type : settings.periodType = period.type) {units : List (PeriodField × Affix)}
    (differ : WordsDiffer units) (before : Nat) :
    Legible settings period.printContext [] before (decide (0 < before)) (separatedWords units)
      (recordUnits wordFields period units) := by
  induction units generalizing before with
  | nil => exact .reached
  | cons entry units ih =>
      have parts : ∀ element ∈ wordNumber entry :: separatedWords units, element.IsPeriodPart :=
        List.forall_mem_cons.mpr ⟨wordNumber_isPart entry, separatedWords_areParts units⟩
      have shape : separatedWords (entry :: units) =
          .separator wordSeparator :: wordNumber entry :: separatedWords units := rfl
      rw [shape, NumberField.recordUnits_cons]
      refine .separator (Separator.readsBack_between (by nofun) wordSeparator_findsTexts (fun _ => rfl)
        parts) ?_
      refine .element (Element.not_isSeparator_number _) ?_ ?_
      · rw [Nat.zero_add]
        exact wordNumber_readsBack culture type differ
      · rw [Bool.false_or, wordNumber, Element.isEmpty_print_ofUnit, Nat.zero_add]
        exact ih differ.tail _

theorem wordElements_legible (culture : settings.culture = .invariant)
    (type : settings.periodType = period.type) :
    Legible settings period.printContext [] 0 false wordElements
      (recordUnits wordFields period unitWords) := by
  have split : unitWords = (.years, .plural " year" " years") :: unitWords.tail := rfl
  have differ := unitWords_differ
  rw [split] at differ ⊢
  rw [NumberField.recordUnits_cons]
  refine .element (Element.not_isSeparator_number _) ?_ ?_
  · rw [Nat.zero_add]
    exact wordNumber_readsBack culture type differ
  · rw [Bool.false_or, wordNumber, Element.isEmpty_print_ofUnit, Nat.zero_add]
    exact separatedWords_legible culture type differ.tail _

theorem toPeriod_words (known : period.KnowsUnits) :
    (recordUnits wordFields period unitWords .empty).toPeriod period.type = .ok period := by
  refine NumberField.toPeriod_recordUnits known (by decide) fun field missing => ?_
  exact absurd (PeriodField.mem_all field) missing

/-! ## Something is printed -/

theorem wordNumber_mem (unit : PeriodField) :
    ∃ affix, wordNumber (unit, affix) ∈ wordElements := by
  cases unit <;> simp [wordElements, separatedWords, unitWords, wordNumber, NumberField.ofUnit]

theorem print_wordElements_ne_nil (known : period.KnowsUnits) {field : PeriodField}
    (supported : period.type.supports field = true) :
    Element.print period.printContext (.composite wordElements) ≠ [] := by
  have member (field : PeriodField) : wordFields.has field = true := by
    cases field <;> rfl
  obtain ⟨unit, _, prints⟩ := NumberField.exists_prints known
    (fun field missing => nomatch missing.symm.trans (member field)) supported (member field)
  obtain ⟨affix, member⟩ := wordNumber_mem unit
  have text := NumberField.print_ofUnit_ne_nil affix prints
  rw [Element.print]
  exact Element.printFrom_ne_nil member (Element.not_isSeparator_number _) text 0

/-- Every period of a type with at least one unit is read back from its English form. -/
theorem parse_print_words (handle : Nat) {type : PeriodType} {field : PeriodField}
    (some : type.supports field = true) {period : Period} (typed : period.type = type)
    (known : ∀ field, type.supports field = false → period.get field = 0) :
    ∃ text, (words handle).print period = .ok text ∧
      ((words handle).withParseType type).parse text = .ok period := by
  subst typed
  have known : period.KnowsUnits := fun field other =>
    Bool.not_eq_false _ ▸ mt (known field) other
  have text := print_wordElements_ne_nil known some
  let settings := ((words handle).withParseType period.type).parseSettings
  have legible : Legible settings period.printContext [] 0 false wordElements
      (recordUnits wordFields period unitWords) :=
    wordElements_legible rfl rfl
  have read := legible.parseWhole_print rfl text "Period"
  refine ⟨String.ofList (Element.print period.printContext (.composite wordElements)), rfl, ?_⟩
  rw [parse_of_tree (parser?_words handle period.type), String.toList_ofList, read, Except.bind,
    withParseType, toPeriod_words known]
  rfl

/-- Of the time units alone, minutes of both signs and no seconds. -/
theorem parse_print_words_time :
    ∃ text, (words 0).print { Period.zeroOf .time with hours := 1, minutes := -30, millis := 7 } =
        .ok text ∧
      ((words 0).withParseType .time).parse text =
        .ok { Period.zeroOf .time with hours := 1, minutes := -30, millis := 7 } := by
  have hours : PeriodType.time.supports .hours = true := by decide
  refine parse_print_words 0 hours rfl ?_
  intro field
  cases field <;> decide

end PeriodFormatter

end ChronoText
