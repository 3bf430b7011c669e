import ChronoText.Proofs.Formatter.LiteralRoundTrip
import ChronoText.Proofs.Formatter.SureTexts
import ChronoText.Proofs.Parsing.Runs

/-! Separators that were left out and do not pass. One that is asked for is missing, and one that is
found takes text from a literal, of which too little is left then, or the sign of a number. So the
period that is read, if any, is another one. -/

set_option autoImplicit false

namespace ChronoText

namespace PeriodPiece

variable {settings : ParseSettings} {period : Period} {present : PeriodFieldSet}
  {pieces front behind : List PeriodPiece} {field : PeriodField} {letter : Char}

/-! ## Numbers without a sign -/

theorem print_unit_of_prints (letter : Char)
    (printed : prints period present field = true) :
    Element.print period.printContext ((unit field letter).element present) =
      (PrintedNumber.ofInt (period.get field).toInt).text ++ letter.toString.toList := by
  rw [prints] at printed
  rw [element, Element.print_ofUnit, NumberField.printed?_ofUnit, if_pos printed]
  rfl

theorem mem_fields_of_anyStores {entry : Bucket.Entry}
    (stored : Element.anyStores entry (pieces.map (element present))) :
    ∃ field ∈ fields pieces, entry = .unit field := by
  induction pieces with
  | nil => exact stored.elim
  | cons piece pieces ih =>
      rcases stored with own | later
      · cases piece with
        | unit field letter =>
            rcases own with same | ⟨absurd, _⟩
            · exact ⟨field, List.mem_cons_self, same⟩
            · cases absurd
        | literal text => exact own.elim
        | separator mode text => exact own.elim
      · obtain ⟨field, member, same⟩ := ih later
        refine ⟨field, ?_, same⟩
        cases piece with
        | unit other letter => exact List.mem_cons_of_mem other member
        | literal text => exact member
        | separator mode text => exact member

theorem printFrom_unit_of_prints (letter : Char) (behind : List PeriodPiece)
    (printed : prints period present field = true) (before : Nat) :
    Element.printFrom period.printContext before ((unit field letter :: behind).map (element present)) =
      (PrintedNumber.ofInt (period.get field).toInt).text ++ (letter.toString.toList ++
        Element.printFrom period.printContext (before + 1) (behind.map (element present))) := by
  rw [List.map_cons, Element.printFrom_element _ _ (not_isSeparator_unit _ _ _), fieldCount_unit,
    if_pos printed, print_unit_of_prints letter printed, List.append_assoc]

/-- In front of the first unit that is printed, all separators that ask for fields behind are. -/
theorem printFrom_first_printed
    (free : ∀ mode text, separator mode text ∈ front → mode ≠ .ifFieldsBefore)
    (unprinted : ∀ other ∈ fields front, prints period present other = false)
    (printed : prints period present field = true) :
    Element.printFrom period.printContext 0
        ((front ++ unit field letter :: behind).map (element present)) =
      sureTexts true front ++
        Element.printFrom period.printContext 0
          ((unit field letter :: behind).map (element present)) := by
  have counted : true = decide (0 < Element.fieldCountOf period.printContext
      ((unit field letter :: behind).map (element present))) := by
    rw [List.map_cons, Element.fieldCountOf, fieldCount_unit, if_pos printed]
    exact (decide_eq_true (Nat.add_pos_left Nat.one_pos _)).symm
  obtain ⟨before, kept, shown⟩ := printFrom_sureTexts unprinted free counted (.inl rfl)
  rwa [kept rfl] at shown

section Unsigned

variable {value : Int} {rest : List Char} {position : Nat} {state after : ParseState} {next : Cursor}
  (culture : settings.culture = .invariant) (alpha : letter.isAlpha = true) (positive : 0 < value)
  (small : value < 10 ^ 10)

include culture alpha positive small

/-- A number without a sign is read as a positive amount, if it is read. -/
theorem amount_pos_of_parse
    (read : Element.parse settings
      ⟨position, (PrintedNumber.ofInt value).text ++ (letter.toString.toList ++ rest)⟩ state
      ((unit field letter).element present) = (.advanced next, after)) :
    0 < (after.bucket.amount field).toInt := by
  have readable : (PrintedNumber.ofInt value).IsReadable false := by
    refine ⟨?_, nofun, nofun⟩
    simp only [PrintedNumber.ofInt]
    omega
  have taken := NumberField.read_ofUnit field present culture readable
    (Affix.startsNoNumber_letter alpha) (Affix.readsBefore_simple letter.toString rest) position
    state.bucket
  dsimp only at taken
  rw [NumberField.render_ofUnit, List.append_assoc, Affix.textFor] at taken
  rw [element, Element.parse, NumberField.parse, affix, taken] at read
  cases stored : (NumberField.ofUnit field present (.simple letter.toString) false).store
      settings.periodType (PrintedNumber.ofInt value).numeral state.bucket with
  | error fault =>
      rw [stored] at read
      cases read
  | ok bucket =>
      rw [stored] at read
      cases read
      obtain ⟨⟨_, limit⟩, own⟩ := NumberField.store_eq_ok rfl stored
      rw [PrintedNumber.value_numeral readable, PrintedNumber.value_ofInt] at limit own
      have amount : Bucket.amount bucket field = .ofInt value := by
        rw [Bucket.amount, own]
        exact congrArg (Option.getD · 0) (if_pos rfl)
      rw [amount, Int32.toInt_ofInt_of_le (by omega) (by omega)]
      exact positive

/-- What stands behind a number leaves its amount alone. -/
theorem amount_pos_of_parseFrom (distinct : field ∉ fields behind) (clear : state.failure? = none)
    {segment : Nat} {passed : List PassedSeparator}
    (read : Element.parseFrom settings segment passed
      ⟨position, (PrintedNumber.ofInt value).text ++ (letter.toString.toList ++ rest)⟩ state
      ((unit field letter :: behind).map (element present)) = (.advanced next, after)) :
    0 < (after.bucket.amount field).toInt := by
  let start : Cursor :=
    ⟨position, (PrintedNumber.ofInt value).text ++ (letter.toString.toList ++ rest)⟩
  have reports := Element.parse_reports settings start clear ((unit field letter).element present)
    fun _ stored => stored
  rw [List.map_cons] at read
  cases taken : Element.parse settings start state ((unit field letter).element present) with
  | mk outcome between =>
      rw [taken] at reports
      cases reports with
      | failed =>
          rw [Element.parseFrom_failed (not_isSeparator_unit _ _ _) taken] at read
          cases read
      | advanced _ _ =>
          rw [Element.parseFrom_element (not_isSeparator_unit _ _ _) taken] at read
          have amount := amount_pos_of_parse culture alpha positive small taken
          obtain ⟨_, _, changes⟩ := Element.parseFrom_advanced (fun _ => mem_fields_of_anyStores) rfl read
          have same := changes (.unit field) fun ⟨other, member, own⟩ =>
            distinct (Bucket.Entry.unit.inj own ▸ member)
          rw [Bucket.amount, same]
          exact amount

end Unsigned

/-! ## What is misread -/

/-- No unit is printed, or there is a first one that is. -/
theorem first_printed (period : Period) (present : PeriodFieldSet) (pieces : List PeriodPiece) :
    (∀ field ∈ fields pieces, prints period present field = false) ∨
      ∃ front field letter behind, pieces = front ++ unit field letter :: behind ∧
        (∀ other ∈ fields front, prints period present other = false) ∧
        prints period present field = true := by
  let isPrinted (piece : PeriodPiece) : Bool := piece.field?.any (prints period present)
  let front := pieces.takeWhile (!isPrinted ·)
  have unprinted : ∀ field ∈ fields front, prints period present field = false := by
    intro field member
    obtain ⟨piece, among, own⟩ := List.mem_filterMap.mp member
    have passed := List.mem_takeWhile_imp among
    simpa [isPrinted, own] using passed
  have split : front ++ pieces.dropWhile (!isPrinted ·) = pieces := List.takeWhile_append_dropWhile
  cases shape : pieces.dropWhile (!isPrinted ·) with
  | nil =>
      rw [shape, List.append_nil] at split
      exact .inl (split ▸ unprinted)
  | cons piece behind =>
      have stopped : isPrinted piece = true := by
        have first := List.head?_dropWhile_not (!isPrinted ·) pieces
        simpa [shape] using first
      cases piece with
      | unit field letter =>
          exact .inr ⟨front, field, letter, behind, shape ▸ split.symm, unprinted, stopped⟩
      | literal text => cases stopped
      | separator mode text => cases stopped

section Misread

variable (culture : settings.culture = .invariant) (exact : settings.styles.innerBlank = false)
  {position segment finish : Nat} {passed : List PassedSeparator} {state after : ParseState}
  (clear : state.failure? = none)

include culture exact clear

/-- Where something, but no digit, was taken of the text of pieces with a unit that is printed, the
amount of that unit is misread. -/
theorem misread_sign (regular : AreRegular (front ++ unit field letter :: behind))
    (unprinted : ∀ other ∈ fields front, prints period present other = false)
    (printed : prints period present field = true) {least : Nat} {next : Cursor} (some : 0 < least)
    (passes : Cursor.PassesNoDigit
      ⟨position, Element.printFrom period.printContext 0
        ((front ++ unit field letter :: behind).map (element present))⟩ next least)
    (read : Element.parseFrom settings segment passed next state
      ((front ++ unit field letter :: behind).map (element present)) =
        (.advanced ⟨finish, []⟩, after)) :
    period.get field ≠ after.bucket.amount field := by
  let value := (period.get field).toInt
  have leading : AreRegular front := regular.of_sublist (List.sublist_append_left _ _)
  have number := printFrom_unit_of_prints letter behind printed 0
  rw [printFrom_first_printed leading.free unprinted printed, number] at passes
  have hidden : ∀ other ∈ letters front, ∀ c ∈ next.rest, Text.sameLetter other c = false := by
    intro other member c occurs
    rcases List.mem_append.mp (passes.mem_of_mem occurs) with inTexts | inNumber
    · obtain ⟨text, among, own⟩ := mem_sureTexts inTexts
      exact leading.apart.clear text among c own other member
    · exact regular.apart.sameLetter_printFrom member (number ▸ inNumber)
  have digit : ¬ Text.HasNoDigit next.rest := by
    refine mt passes.hasNoDigit fun none => ?_
    have behindTexts := (List.forall_mem_append.mp none).2
    exact PrintedNumber.not_hasNoDigit_text value (List.forall_mem_append.mp behindTexts).1
  rw [List.map_append] at read
  obtain ⟨segment', passed', ⟨start, rest⟩, more, rested⟩ :=
    parseFrom_sureTexts exact leading clear hidden (fun _ : true = true => digit) read
  obtain ⟨taken, whole, _, length, takenClear⟩ := passes.trans more
  have longer : (sureTexts true front).length < taken.length := by omega
  obtain ⟨negative, left⟩ := PrintedNumber.sign_of_taken whole longer takenClear
  cases left
  have small : -value < 10 ^ 10 := by
    have least := (period.get field).le_toInt
    omega
  have alpha : letter.isAlpha = true :=
    regular.apart.alpha letter
      (List.mem_filterMap.mpr ⟨_, List.mem_append_right _ List.mem_cons_self, rfl⟩)
  have distinct : field ∉ fields behind :=
    (List.nodup_cons.mp (regular.of_sublist (List.sublist_append_right _ _)).distinct).1
  have amount := amount_pos_of_parseFrom culture alpha (Int.neg_pos_of_neg negative) small distinct
    clear rested
  intro same
  rw [← same] at amount
  exact absurd amount (Int.not_lt.mpr negative.le)

/-- Text without digits that is taken away from the pieces leaves too little of their literals, or
a number without its sign. -/
theorem misread_taken (regular : AreRegular pieces) {least : Nat} {next : Cursor} (some : 0 < least)
    (passes : Cursor.PassesNoDigit
      ⟨position, Element.printFrom period.printContext 0 (pieces.map (element present))⟩ next least)
    (read : Element.parseFrom settings segment passed next state (pieces.map (element present)) =
      (.advanced ⟨finish, []⟩, after)) :
    ∃ field, period.get field ≠ after.bucket.amount field := by
  rcases first_printed period present pieces with
    none | ⟨front, field, letter, behind, rfl, unprinted, printed⟩
  · rw [printFrom_unprinted none regular.free] at passes
    have hidden : ∀ letter ∈ letters pieces, ∀ c ∈ next.rest, Text.sameLetter letter c = false := by
      intro letter member c occurs
      obtain ⟨text, among, own⟩ := mem_sureTexts (passes.mem_of_mem occurs)
      exact regular.apart.clear text among c own letter member
    rw [← List.append_nil (pieces.map (element present))] at read
    obtain ⟨_, _, last, more, _⟩ := parseFrom_sureTexts exact regular clear hidden
      (fun absurd : false = true => nomatch absurd) read
    obtain ⟨taken, whole, _, length, _⟩ := passes.trans more
    have bound : (sureTexts false pieces).length = (taken ++ last.rest).length :=
      congrArg List.length whole
    rw [List.length_append] at bound
    omega
  · exact ⟨field, misread_sign culture exact clear regular unprinted printed some passes read⟩

/-- A separator that was left out and does not pass. -/
theorem misread_separator {mode : SeparatorMode} {text : String}
    (regular : AreRegular (separator mode text :: pieces)) {touched : Bool}
    (fails : Separator.passesUnprinted ⟨text, text, mode⟩ touched
      (Element.printFrom period.printContext 0 (pieces.map (element present))) = false)
    (forth : touched = true → segment < position)
    (read : Element.parseFrom settings segment passed
      ⟨position, Element.printFrom period.printContext 0 (pieces.map (element present))⟩ state
      ((separator mode text :: pieces).map (element present)) = (.advanced ⟨finish, []⟩, after)) :
    ∃ field, period.get field ≠ after.bucket.amount field := by
  have given := regular.text_ne List.mem_cons_self
  have some : 0 < text.toList.length :=
    List.length_pos_iff.mpr (mt String.toList_eq_nil_iff.mp given)
  rw [List.map_cons, element, Element.parseFrom_separator] at read
  rcases Element.passSeparator_cases ⟨text, text, mode⟩ segment ⟨position, _⟩ with
    ⟨next, found, passes⟩ | missing
  · rw [passes] at read
    rw [Separator.skip?_same given] at found
    have own := Cursor.passesNoDigit_of_skip? (regular.undigited text List.mem_cons_self) found
    exact misread_taken culture exact clear regular.tail some own read
  · rw [missing] at read
    cases mode with
    | always =>
        obtain ⟨wasTouched, starts⟩ := Bool.or_eq_false_iff.mp fails
        rw [Bool.not_eq_false'] at wasTouched starts
        have later := forth wasTouched
        simp only [Element.passSeparator, Separator.skip?_same given, Cursor.skip?, starts, later,
          decide_true, Bool.true_or, if_true] at missing
        cases missing
    | ifFieldsBefore => exact absurd rfl (regular.free _ text List.mem_cons_self)
    | ifFieldsAfter =>
        have nothing : Element.printFrom period.printContext 0 (pieces.map (element present)) = [] :=
          Element.rest_eq_nil_of_missing clear read
        rw [nothing] at fails
        cases fails

/-- Where some separator that was left out does not pass, the text is not read to the end, or an amount
is misread. -/
theorem misread (type : settings.periodType = period.type) (regular : AreRegular pieces)
    {before : Nat} {touched : Bool} (counted : 0 < before → touched = true)
    (fails : Element.separatorsPass period.printContext before touched
      (pieces.map (element present)) = false)
    (forth : touched = true → segment < position) (back : touched = false → segment = position)
    (read : Element.parseFrom settings segment passed
      ⟨position, Element.printFrom period.printContext before (pieces.map (element present))⟩ state
      (pieces.map (element present)) = (.advanced ⟨finish, []⟩, after)) :
    ∃ field, period.get field ≠ after.bucket.amount field := by
  induction pieces generalizing before touched position segment passed state with
  | nil => cases fails
  | cons piece pieces ih =>
      rw [List.map_cons] at fails read
      cases piece with
      | unit field letter =>
          have own := regular.apart.readsBack_unit present culture type
            (before + Element.fieldCount period.printContext ((unit field letter).element present))
            position state
          rw [Element.printFrom_element _ _ (not_isSeparator_unit _ _ _),
            Element.parseFrom_element (not_isSeparator_unit _ _ _) own] at read
          obtain ⟨forth, back⟩ := Element.touched_behind forth back
            (Element.print period.printContext ((unit field letter).element present))
          refine ih ?_ regular.tail (touched_of_counted period present field letter counted) fails forth
            back read
          exact clear
      | literal text =>
          have own : Element.parse settings ⟨position, text.toList ++
                Element.printFrom period.printContext before (pieces.map (element present))⟩ state
                ((literal text).element present) =
              (.advanced ⟨position + Text.utf8Length text.toList, _⟩, state) :=
            readsBack_literal culture exact period present text _ position state
          rw [printFrom_literal] at read
          rw [Element.parseFrom_element (not_isSeparator_literal present text) own] at read
          obtain ⟨forth, back⟩ := Element.touched_behind forth back text.toList
          refine ih ?_ regular.tail ?_ fails forth back read
          · exact clear
          · exact fun some => Bool.or_eq_true_iff.mpr (.inl (counted some))
      | separator mode text =>
          let between : Separator := ⟨text, text, mode⟩
          let more := Element.fieldCountOf period.printContext (pieces.map (element present))
          let behind := Element.printFrom period.printContext 0 (pieces.map (element present))
          have shown : Element.printFrom period.printContext before
              ((separator mode text).element present :: pieces.map (element present)) =
                ((between.textBetween? before more).getD "").toList ++ behind :=
            Element.printFrom_separator _ _ _ _
          rw [shown] at read
          cases own : (between.textBetween? before more).isSome ||
              between.passesUnprinted touched behind with
          | false =>
              obtain ⟨unprinted, fault⟩ := Bool.or_eq_false_iff.mp own
              rw [Option.isSome_eq_false_iff, Option.isNone_iff_eq_none] at unprinted
              rw [unprinted] at read
              exact misread_separator culture exact clear regular fault forth read
          | true =>
              have later : Element.separatorsPass period.printContext 0 false
                  (pieces.map (element present)) = false :=
                (Bool.and_eq_false_iff.mp fails).resolve_left (Bool.not_eq_false _ ▸ own)
              have passes := Separator.readsBack_passing (regular.text_ne List.mem_cons_self)
                (regular.free mode text List.mem_cons_self) counted
                (fun some => printFrom_ne_nil_of_fields some 0) own
              obtain ⟨check, passed, _⟩ := Element.passSeparator_readsBack passes forth back
              rw [List.append_nil] at passed
              rw [element, Element.parseFrom_separator, passed] at read
              exact ih clear regular.tail (fun absurd => absurd.false.elim) later
                Bool.false_ne_true.elim (fun _ => rfl) read

end Misread

/-- With neither a unit nor a literal nothing is printed. -/
theorem some_of_print_ne_nil
    (free : ∀ mode text, separator mode text ∈ pieces → mode ≠ .ifFieldsBefore)
    (shown : Element.printFrom period.printContext 0 (pieces.map (element present)) ≠ []) :
    fields pieces ≠ [] ∨ ∃ text, literal text ∈ pieces := by
  by_contra nothing
  obtain ⟨noFields, noLiteral⟩ := not_or.mp nothing
  have none : ∀ field ∈ fields pieces, prints period present field = false := by
    rw [Decidable.not_not.mp noFields]
    exact List.forall_mem_nil _
  rw [printFrom_unprinted none free] at shown
  refine shown (List.flatMap_eq_nil_iff.mpr fun piece member => ?_)
  cases piece with
  | unit field letter => rfl
  | literal text => exact absurd ⟨text, member⟩ noLiteral
  | separator mode text => cases mode <;> rfl

end PeriodPiece

namespace PeriodFormatter

open PeriodPiece

/-- A period of the standard type whose units are among those of the pieces is read back exactly if
there is a unit or a literal and every separator that is left out passes. -/
theorem parse_print_pieces_iff (handle : Nat) {pieces : List PeriodPiece} {builder : PeriodBuilder}
    (built : build pieces = .ok builder) (apart : AreApart pieces)
    (undigited : ∀ text ∈ texts pieces, Text.HasNoDigit text.toList)
    (distinct : (fields pieces).Nodup)
    (free : ∀ mode text, .separator mode text ∈ pieces → mode ≠ .ifFieldsBefore) {period : Period}
    (standard : period.type = .standard)
    (absent : ∀ field, field ∉ fields pieces → period.get field = 0) :
    ∃ formatter text, builder.formatter handle = .ok formatter ∧
      formatter.print period = .ok text ∧
      (formatter.parse text = .ok period ↔
        (fields pieces ≠ [] ∨ ∃ text, .literal text ∈ pieces) ∧
          Element.separatorsPass period.printContext 0 false builder.finishedElements = true) := by
  let tree : FormatTree := ⟨handle, (kept pieces).map (element (present pieces))⟩
  let formatter : PeriodFormatter := { printer? := tree, parser? := tree }
  have finished := formatter_build built handle
  refine ⟨formatter, .ofList (tree.print period.printContext), finished, rfl, ?_, ?_⟩
  · intro read
    have among := kept_sublist pieces
    have regular : AreRegular (kept pieces) :=
      { apart := apart.of_sublist among
        distinct := (fields_kept pieces).symm ▸ distinct
        free := fun mode text member => free mode text (among.subset member)
        given := (build_ok built).2
        undigited := fun text member => undigited text ((among.filterMap text?).subset member) }
    have parser : formatter.parser? = some tree := rfl
    rw [parse_of_tree parser, String.toList_ofList] at read
    have made : (parseWhole tree.elements formatter.parseSettings (tree.print period.printContext)
        "Period" >>= fun bucket => bucket.toPeriod formatter.parseType) = .ok period :=
      NumberField.eq_ok_of_mapError read
    obtain ⟨bucket, whole, amounts⟩ := bind_ok made
    obtain ⟨shown, finish, state, reached, rfl⟩ := finished_of_parseWhole rfl rfl whole
    constructor
    · have some := some_of_print_ne_nil regular.free shown
      rw [fields_kept] at some
      exact some.imp_right fun ⟨text, member⟩ => ⟨text, among.subset member⟩
    · rw [finishedElements_build built]
      by_contra fails
      have culture : formatter.parseSettings.culture = .invariant := rfl
      obtain ⟨field, other⟩ := misread culture rfl rfl standard.symm regular
        (fun absurd => absurd.false.elim) (Bool.eq_false_of_not_eq_true fails)
        Bool.false_ne_true.elim (fun _ => rfl) reached
      exact other ((Bucket.toPeriod_eq_ok_iff.mp amounts).2.1 field)
  · rintro ⟨some, passes⟩
    obtain ⟨_, _, same, printed, read⟩ :=
      parse_print_pieces handle built apart distinct free some standard absent passes
    cases finished.symm.trans same
    cases printed
    exact read

/-- Separators of both modes, of which the one in front of a negative number is left out. -/
theorem parse_print_pieces_mixed :
    let pieces : List PeriodPiece := [.literal "in ", .separator .always "+", .unit .days 'd',
      .separator .always ", ", .unit .hours 'h', .separator .ifFieldsAfter "; ", .literal "~",
      .unit .minutes 'm']
    let period := { Period.zeroOf .standard with days := -2, minutes := 5 }
    ∃ builder formatter text, build pieces = .ok builder ∧ builder.formatter 0 = .ok formatter ∧
      formatter.print period = .ok text ∧ formatter.parse text = .ok period := by
  intro pieces period
  let builder : PeriodBuilder := { elements := (kept pieces).map (element .empty) }
  have built : build pieces = .ok builder := rfl
  have free : ∀ mode text, .separator mode text ∈ pieces → mode ≠ .ifFieldsBefore := by
    rintro mode text member rfl
    simp [pieces] at member
  have absent : ∀ field, field ∉ fields pieces → period.get field = 0 := by
    intro field missing
    cases field <;> revert missing <;> decide
  have passes :
      Element.separatorsPass period.printContext 0 false builder.finishedElements = true := by
    decide +kernel
  obtain ⟨formatter, text, finished, printed, read⟩ := parse_print_pieces_iff 0 built
    (by decide +kernel) (by decide +kernel) (by decide) free rfl absent
  exact ⟨builder, formatter, text, built, finished, printed, read.mpr ⟨.inl (by decide), passes⟩⟩

/-- What is lost otherwise: a literal behind a separator that was left out makes it asked for, and one
in front of it makes it found in the sign of a number; with neither a unit nor a literal there is no
text; and a character outside ASCII can have the letter of a unit for its lower case. -/
theorem roundTrip_lost :
    let literalBehind : List PeriodPiece :=
      [.unit .days 'd', .separator .ifFieldsAfter ",", .literal "!"]
    let literalBefore : List PeriodPiece := [.literal "x", .separator .always "-", .unit .days 'd']
    let kelvin : List PeriodPiece := [.unit .hours 'h', .unit .days 'k', .literal "\u212a"]
    let oneDay := { Period.zeroOf .standard with days := 1 }
    let fiveDaysAgo := { Period.zeroOf .standard with days := -5 }
    let oneHour := { Period.zeroOf .standard with hours := 1 }
    (arePlain literalBehind oneDay = true ∧ roundTrip literalBehind oneDay =
      .ok ("1d!", .error (.ofFailure
        { kind := .separatorMissing, params := [.text ","], position? := some 2 }))) ∧
    (arePlain literalBefore fiveDaysAgo = true ∧ roundTrip literalBefore fiveDaysAgo =
      .ok ("x-5d", .ok { Period.zeroOf .standard with days := 5 })) ∧
    (arePlain [] (.zeroOf .standard) = true ∧ roundTrip [] (.zeroOf .standard) =
      .ok ("", .error (.ofFailure { kind := .emptyValue, position? := some 0 }))) ∧
    (arePlain kelvin oneHour = true ∧ roundTrip kelvin oneHour =
      .ok ("1h\u212a", .error (.ofFailure
        { kind := .numberMismatch, params := [.text "days"], position? := some 2 }))) := by
  intro literalBehind literalBefore kelvin oneDay fiveDaysAgo oneHour
  refine ⟨⟨?_, ?_⟩, ⟨?_, ?_⟩, ⟨?_, ?_⟩, ⟨?_, ?_⟩⟩
  all_goals decide +kernel

end PeriodFormatter

end ChronoText
