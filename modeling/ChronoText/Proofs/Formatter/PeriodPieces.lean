import ChronoText.Proofs.Formatter.PeriodLayouts
import ChronoText.Proofs.Formatter.Reachable
import ChronoText.Proofs.Parsing.PeriodParts
import ChronoText.Proofs.Parsing.UnitAmounts

/-! Formats of periods that are put together piece by piece. A piece is a unit with a letter behind
its number, a literal or a separator, in any order that a builder accepts. A letter that occurs in no
text and at no other unit tells its unit from whatever is printed behind it. -/

set_option autoImplicit false

namespace ChronoText

open ChronoText.NumberField (recordUnits)

inductive PeriodPiece where
  | unit (field : PeriodField) (letter : Char)
  | literal (text : String)
  /-- A separator of one text. -/
  | separator (mode : SeparatorMode) (text : String)
  deriving DecidableEq

namespace PeriodPiece

def appendTo (builder : PeriodBuilder) : PeriodPiece → Except FormatError PeriodBuilder
  | unit field letter => (builder.appendUnit field).appendSuffix letter.toString
  | literal text => builder.appendLiteral text
  | separator .always text => builder.appendSeparator text
  | separator .ifFieldsBefore text => builder.appendSeparatorIfFieldsBefore text
  | separator .ifFieldsAfter text => builder.appendSeparatorIfFieldsAfter text

/-- A new builder to which the pieces have been appended in turn. -/
def build (pieces : List PeriodPiece) : Except FormatError PeriodBuilder :=
  pieces.foldlM appendTo {}

/-- The text of a period in the format of the pieces, and what is read of it. -/
def roundTrip (pieces : List PeriodPiece) (period : Period) :
    Except FormatError (String × Except FormatError Period) := do
  let builder ← build pieces
  let formatter ← builder.formatter 0
  let text ← formatter.print period
  pure (text, formatter.parse text)

def field? : PeriodPiece → Option PeriodField
  | unit field _ => some field
  | literal _ | separator _ _ => none

def letter? : PeriodPiece → Option Char
  | unit _ letter => some letter
  | literal _ | separator _ _ => none

def text? : PeriodPiece → Option String
  | unit _ _ => none
  | literal text | separator _ text => some text

def fields (pieces : List PeriodPiece) : List PeriodField :=
  pieces.filterMap field?

def letters (pieces : List PeriodPiece) : List Char :=
  pieces.filterMap letter?

def texts (pieces : List PeriodPiece) : List String :=
  pieces.filterMap text?

/-- The units have different letters, and none of their letters occurs in a literal or a separator,
in either case. -/
structure AreApart (pieces : List PeriodPiece) : Prop where
  alpha : ∀ letter ∈ letters pieces, letter.isAlpha = true
  different : ((letters pieces).map Char.toLower).Nodup
  clear : ∀ text ∈ texts pieces, ∀ c ∈ text.toList, ∀ letter ∈ letters pieces,
    Text.sameLetter letter c = false

/-- All of this as it looks in ASCII, with no digit in a text, for a period that has only these
units. -/
def arePlain (pieces : List PeriodPiece) (period : Period) : Bool :=
  (letters pieces).all Char.isAlpha && decide ((letters pieces).map Char.toLower).Nodup &&
    decide (fields pieces).Nodup &&
    PeriodField.all.all (fun field => field ∈ fields pieces || period.get field = 0) &&
    (texts pieces).all fun text => text.toList.all fun c =>
      !c.isDigit && (letters pieces).all fun letter => c.toLower != letter.toLower

instance (pieces : List PeriodPiece) : Decidable (AreApart pieces) :=
  decidable_of_iff
    ((letters pieces).all Char.isAlpha = true ∧ ((letters pieces).map Char.toLower).Nodup ∧
      ((texts pieces).all fun text => text.toList.all fun c =>
        (letters pieces).all fun letter => !Text.sameLetter letter c) = true)
    ⟨fun ⟨alpha, different, clear⟩ =>
      ⟨by simpa using alpha, different, by simpa using clear⟩,
    fun ⟨alpha, different, clear⟩ =>
      ⟨by simpa using alpha, different, by simpa using clear⟩⟩

theorem not_mem_texts_cons {text : String} {piece : PeriodPiece} {pieces : List PeriodPiece} :
    text ∉ texts (piece :: pieces) ↔ piece.text? ≠ some text ∧ text ∉ texts pieces := by
  rw [texts, texts, List.mem_filterMap, List.mem_filterMap, ← not_or]
  refine not_congr ?_
  simp only [List.mem_cons, exists_eq_or_imp]

/-! ## Building -/

def affix (letter : Char) : Affix :=
  .simple letter.toString

def element (present : PeriodFieldSet) : PeriodPiece → Element
  | unit field letter => .number (.ofUnit field present (affix letter) false)
  | literal text => .literal ⟨.given, text⟩
  | separator mode text => .separator ⟨text, text, mode⟩

def needsBefore : PeriodPiece → Bool
  | separator mode _ => mode.needsBefore
  | unit _ _ | literal _ => false

/-- The pieces without the separators in front that ask for something before them. -/
def kept (pieces : List PeriodPiece) : List PeriodPiece :=
  pieces.dropWhile needsBefore

variable {pieces : List PeriodPiece} {piece : PeriodPiece} {builder next : PeriodBuilder}

theorem appendTo_separator (builder : PeriodBuilder) (mode : SeparatorMode) (text : String) :
    (separator mode text).appendTo builder = builder.addSeparator ⟨text, text, mode⟩ := by
  cases mode <;> rfl

/-- A piece that is accepted has its text and is appended, unless it is a separator that asks for
something before it where there is nothing. -/
theorem appendTo_ok {elements : List Element} (accepted : piece.appendTo { elements } = .ok next) :
    (elements = [] ∧ piece.needsBefore = true ∧ next = {}) ∨
      ((elements = [] → piece.needsBefore = false) ∧ piece.text? ≠ some "" ∧
        next = { elements := elements ++ [piece.element .empty] }) := by
  cases piece with
  | unit field letter =>
      have given : letter.toString ≠ "" := by
        simp [Char.toString]
      have appended : (unit field letter).appendTo { elements } =
          .ok { elements := elements ++ [(unit field letter).element .empty] } :=
        LayoutUnit.appendSuffix_concat given elements rfl
      rw [appended] at accepted
      cases accepted
      exact .inr ⟨fun _ => rfl, (Option.some_ne_none _).symm, rfl⟩
  | literal text =>
      obtain ⟨given, _, rfl⟩ := PeriodBuilder.appendLiteral_ok accepted
      exact .inr ⟨fun _ => rfl, fun own => given (Option.some.inj own), rfl⟩
  | separator mode text =>
      rw [appendTo_separator] at accepted
      obtain ⟨given, _, ⟨empty, needed, rfl⟩ | ⟨free, _, rfl⟩⟩ :=
        PeriodBuilder.addSeparator_ok accepted
      · cases empty
        exact .inl ⟨rfl, needed, rfl⟩
      · exact .inr ⟨free, fun own => given (Option.some.inj own), rfl⟩

theorem foldlM_appendTo_ok {elements : List Element} (some : elements ≠ [])
    (accepted : pieces.foldlM appendTo { elements } = .ok builder) :
    builder = { elements := elements ++ pieces.map (element .empty) } ∧ "" ∉ texts pieces := by
  induction pieces generalizing elements with
  | nil =>
      cases accepted
      rw [List.map_nil, List.append_nil]
      exact ⟨rfl, List.not_mem_nil⟩
  | cons piece pieces ih =>
      rw [List.foldlM_cons] at accepted
      obtain ⟨between, first, others⟩ := bind_ok accepted
      rcases appendTo_ok first with ⟨nothing, _, _⟩ | ⟨_, own, rfl⟩
      · exact absurd nothing some
      · obtain ⟨built, given⟩ := ih (List.append_ne_nil_of_left_ne_nil some _) others
        rw [built, List.append_assoc]
        exact ⟨rfl, not_mem_texts_cons.mpr ⟨own, given⟩⟩

theorem build_ok (accepted : build pieces = .ok builder) :
    builder = { elements := (kept pieces).map (element .empty) } ∧ "" ∉ texts (kept pieces) := by
  induction pieces with
  | nil =>
      cases accepted
      exact ⟨rfl, List.not_mem_nil⟩
  | cons piece pieces ih =>
      rw [build, List.foldlM_cons] at accepted
      obtain ⟨between, first, others⟩ := bind_ok accepted
      rcases appendTo_ok first with ⟨_, dropped, rfl⟩ | ⟨free, own, rfl⟩
      · rw [kept, List.dropWhile_cons_of_pos dropped]
        exact ih others
      · obtain ⟨built, given⟩ := foldlM_appendTo_ok (List.cons_ne_nil _ _) others
        rw [kept, List.dropWhile_cons_of_neg (Bool.not_eq_true _ ▸ free rfl)]
        exact ⟨built, not_mem_texts_cons.mpr ⟨own, given⟩⟩

/-! ## Finishing -/

theorem kept_sublist (pieces : List PeriodPiece) : (kept pieces).Sublist pieces :=
  List.dropWhile_sublist _

/-- No unit is dropped. -/
theorem fields_kept (pieces : List PeriodPiece) : fields (kept pieces) = fields pieces := by
  induction pieces with
  | nil => rfl
  | cons piece pieces ih =>
      cases piece with
      | separator mode text =>
          unfold kept at ih ⊢
          rw [List.dropWhile_cons]
          split
          · exact ih
          · rfl
      | _ => rfl

theorem units_map_element (pieces : List PeriodPiece) :
    PeriodBuilder.units { elements := pieces.map (element .empty) } = fields pieces := by
  rw [PeriodBuilder.units, List.filterMap_map]
  refine List.filterMap_congr fun piece _ => ?_
  cases piece <;> rfl

/-- The units that the elements of a finished format are told of. -/
def present (pieces : List PeriodPiece) : PeriodFieldSet :=
  .ofList (fields pieces)

theorem finishedElements_build (accepted : build pieces = .ok builder) :
    builder.finishedElements = (kept pieces).map (element (present pieces)) := by
  have told (present : PeriodFieldSet) (piece : PeriodPiece) :
      PeriodBuilder.tell present (piece.element .empty) = piece.element present := by
    cases piece <;> rfl
  rw [PeriodBuilder.finishedElements_eq, (build_ok accepted).1, units_map_element, fields_kept,
    List.map_map]
  exact List.map_congr_left fun piece _ => told _ piece

theorem formatter_build (accepted : build pieces = .ok builder) (handle : Nat) :
    builder.formatter handle =
      .ok { printer? := some ⟨handle, (kept pieces).map (element (present pieces))⟩
            parser? := some ⟨handle, (kept pieces).map (element (present pieces))⟩ } := by
  rw [← finishedElements_build accepted, (build_ok accepted).1]
  rfl

/-! ## Telling units apart -/

theorem AreApart.of_sublist {others : List PeriodPiece} (apart : AreApart pieces)
    (among : others.Sublist pieces) : AreApart others := by
  have letters : (letters others).Sublist (PeriodPiece.letters pieces) := among.filterMap letter?
  have texts : (texts others).Sublist (PeriodPiece.texts pieces) := among.filterMap text?
  constructor
  · exact fun letter member => apart.alpha letter (letters.subset member)
  · exact apart.different.sublist (letters.map Char.toLower)
  · intro text member c own letter letterMember
    exact apart.clear text (texts.subset member) c own letter (letters.subset letterMember)

theorem AreApart.tail (apart : AreApart (piece :: pieces)) : AreApart pieces :=
  apart.of_sublist (List.sublist_cons_self piece pieces)

variable {settings : ParseSettings} {period : Period} {present : PeriodFieldSet}
  {field : PeriodField} {letter : Char}

/-- What some of the pieces print does not hold the letter of a unit among the others. -/
theorem AreApart.sameLetter_printFrom {front : List PeriodPiece} (apart : AreApart (front ++ pieces))
    (own : letter ∈ letters front) {before : Nat} {c : Char}
    (member : c ∈ Element.printFrom period.printContext before (pieces.map (element present))) :
    Text.sameLetter letter c = false := by
  have split : letters (front ++ pieces) = letters front ++ letters pieces := List.filterMap_append
  have among : letter ∈ letters (front ++ pieces) := split ▸ List.mem_append_left _ own
  have clear {other : PeriodPiece} (otherMember : other ∈ pieces) {text : String}
      (shown : other.text? = some text) (occurs : c ∈ text.toList) :
      Text.sameLetter letter c = false :=
    apart.clear text (List.mem_filterMap.mpr ⟨other, List.mem_append_right front otherMember, shown⟩)
      c occurs letter among
  obtain ⟨_, elementMember, shown⟩ := Element.mem_printFrom member
  obtain ⟨other, otherMember, rfl⟩ := List.mem_map.mp elementMember
  cases other with
  | unit otherField otherLetter =>
      have otherOwn : otherLetter ∈ letters pieces := List.mem_filterMap.mpr ⟨_, otherMember, rfl⟩
      have otherAmong : otherLetter ∈ letters (front ++ pieces) :=
        split ▸ List.mem_append_right _ otherOwn
      have different : otherLetter.toLower ≠ letter.toLower := by
        have disjoint := apart.different
        rw [split, List.map_append] at disjoint
        exact ((List.nodup_append.mp disjoint).2.2 _ (List.mem_map_of_mem own) _
          (List.mem_map_of_mem otherOwn)).symm
      rcases shown with text | ⟨between, absurd, _⟩
      · exact Element.sameLetter_print_ofUnit (apart.alpha letter among)
          (apart.alpha otherLetter otherAmong) different text
      · cases absurd
  | literal text =>
      rcases shown with occurs | ⟨between, absurd, _⟩
      · exact clear otherMember rfl occurs
      · cases absurd
  | separator mode text =>
      rcases shown with nothing | ⟨between, same, occurs⟩
      · rw [element, Element.print] at nothing
        cases nothing
      · cases same
        exact clear otherMember rfl (or_self_iff.mp occurs)

theorem not_isSeparator_unit (present : PeriodFieldSet) (field : PeriodField) (letter : Char) :
    ¬ Element.IsSeparator ((unit field letter).element present) :=
  Element.not_isSeparator_number _

theorem not_isSeparator_literal (present : PeriodFieldSet) (text : String) :
    ¬ Element.IsSeparator ((literal text).element present) :=
  Element.not_isSeparator_literal _

theorem printFrom_literal (period : Period) (present : PeriodFieldSet) (before : Nat) (text : String)
    (rest : List Element) :
    Element.printFrom period.printContext before ((literal text).element present :: rest) =
      text.toList ++ Element.printFrom period.printContext before rest :=
  Element.printFrom_element _ _ (not_isSeparator_literal present text) _

theorem isEmpty_print_unit (period : Period) (present : PeriodFieldSet) (field : PeriodField)
    (letter : Char) :
    (!(Element.print period.printContext ((unit field letter).element present)).isEmpty) =
      decide (0 < Element.fieldCount period.printContext ((unit field letter).element present)) :=
  Element.isEmpty_print_ofUnit field present (affix letter) false

/-- Whether a unit of the format is printed. -/
def prints (period : Period) (present : PeriodFieldSet) (field : PeriodField) : Bool :=
  ZeroPolicy.rarelyLast.prints field period present

theorem fieldCount_unit (period : Period) (present : PeriodFieldSet) (field : PeriodField)
    (letter : Char) :
    Element.fieldCount period.printContext ((unit field letter).element present) =
      if prints period present field then 1 else 0 := by
  rw [element, Element.fieldCount, NumberField.fieldCount, NumberField.printed?_ofUnit, prints]
  split <;> rfl

theorem print_unit_eq_nil_iff :
    Element.print period.printContext ((unit field letter).element present) = [] ↔
      prints period present field = false := by
  have same := isEmpty_print_unit period present field letter
  rw [fieldCount_unit] at same
  cases shown : prints period present field with
  | true =>
      rw [shown, if_pos rfl, decide_eq_true Nat.one_pos, Bool.not_eq_true',
        List.isEmpty_eq_false_iff] at same
      exact iff_of_false same Bool.false_ne_true.symm
  | false =>
      rw [shown, if_neg Bool.false_ne_true, decide_eq_false (Nat.lt_irrefl 0), Bool.not_eq_false',
        List.isEmpty_iff] at same
      exact iff_of_true same rfl

variable (present) in
/-- A unit reads back in front of the pieces behind it, whether it was printed or not. -/
theorem AreApart.readsBack_unit (culture : settings.culture = .invariant)
    (type : settings.periodType = period.type) (apart : AreApart (unit field letter :: pieces))
    (before : Nat) :
    Element.ReadsBack settings period.printContext
      (Element.printFrom period.printContext before (pieces.map (element present)))
      ((unit field letter).element present)
      ((NumberField.ofUnit field present (affix letter) false).recordUnit field period) := by
  refine NumberField.readsBack_amount culture type ?_ (fun _ => ?_) fun _ => ?_
  · exact Affix.startsNoNumber_letter (apart.alpha letter List.mem_cons_self)
  · exact Affix.readsBefore_simple _ _
  · have whole : AreApart ([unit field letter] ++ pieces) := apart
    exact Affix.distance?_of_avoids fun c => whole.sameLetter_printFrom List.mem_cons_self

/-- Some unit of a standard period that has no others is printed. -/
theorem exists_printed (standard : period.type = .standard)
    (absent : ∀ field, field ∉ fields pieces → period.get field = 0) (some : fields pieces ≠ []) :
    ∃ field ∈ fields pieces,
      ZeroPolicy.rarelyLast.prints field period (PeriodPiece.present pieces) = true := by
  obtain ⟨first, member⟩ := List.exists_mem_of_ne_nil _ some
  have known : period.KnowsUnits := fun field _ => period.supports_of_standard standard field
  exact NumberField.exists_mem_prints known absent (period.supports_of_standard standard first) member

/-! ## Reading the amounts -/

def entry? : PeriodPiece → Option (PeriodField × Affix)
  | unit field letter => some (field, affix letter)
  | literal _ | separator _ _ => none

/-- What is read of the units among the pieces. -/
def record (present : PeriodFieldSet) (period : Period) (pieces : List PeriodPiece) :
    Bucket → Bucket :=
  recordUnits present period (pieces.filterMap entry?)

theorem record_unit (present : PeriodFieldSet) (period : Period) (field : PeriodField)
    (letter : Char) (pieces : List PeriodPiece) :
    record present period (unit field letter :: pieces) =
      record present period pieces ∘
        (NumberField.ofUnit field present (affix letter) false).recordUnit field period := rfl

theorem map_entry (pieces : List PeriodPiece) :
    (pieces.filterMap entry?).map (·.1) = fields pieces := by
  rw [List.map_filterMap]
  refine List.filterMap_congr fun piece _ => ?_
  cases piece <;> rfl

theorem toPeriod_record (standard : period.type = .standard) (distinct : (fields pieces).Nodup)
    (absent : ∀ field, field ∉ fields pieces → period.get field = 0) :
    (record present period pieces .empty).toPeriod .standard = .ok period := by
  rw [← standard]
  have known : period.KnowsUnits := fun field _ => period.supports_of_standard standard field
  refine NumberField.toPeriod_recordUnits known ?_ ?_
  · rwa [map_entry]
  · rwa [map_entry]

end PeriodPiece

end ChronoText
