import ChronoText.Proofs.Formatter.PeriodPieces
import ChronoText.Proofs.Parsing.Runs

/-! Separators that ask for units before them and not behind them. Printing puts such a separator
behind every unit that is printed, so a text may end with one; reading refuses a separator with
nothing behind it. A period is read back exactly if the last unit of the format is printed. -/

set_option autoImplicit false

namespace ChronoText

namespace PeriodPiece

/-- Units, and between each two a separator that asks for fields before it. -/
inductive AreJoined : List PeriodPiece → Prop where
  | last {field letter} : AreJoined [unit field letter]
  | next {field letter text pieces} :
      AreJoined pieces →
      AreJoined (unit field letter :: separator .ifFieldsBefore text :: pieces)

/-- The separator behind the last unit that is `printed`, unless that is the last unit of all. -/
def ending? (printed : PeriodField → Bool) : List PeriodPiece → Option String
  | unit field _ :: separator _ text :: rest =>
    if (fields rest).any printed then ending? printed rest
    else if printed field then some text else none
  | _ => none

section Next

variable (field : PeriodField) (letter : Char) (text : String) {pieces : List PeriodPiece}

theorem fields_last : fields [unit field letter] = [field] := rfl

variable (pieces) in
theorem fields_next :
    fields (unit field letter :: separator .ifFieldsBefore text :: pieces) = field :: fields pieces :=
  rfl

variable {field letter text} in
theorem texts_of_next
    (given : "" ∉ texts (unit field letter :: separator .ifFieldsBefore text :: pieces)) :
    text ≠ "" ∧ "" ∉ texts pieces := by
  obtain ⟨own, others⟩ := not_mem_texts_cons.mp (not_mem_texts_cons.mp given).2
  exact ⟨mt (congrArg some) own, others⟩

end Next

section Ending

variable {printed : PeriodField → Bool} {pieces : List PeriodPiece}

theorem AreJoined.fields_ne_nil (joined : AreJoined pieces) : fields pieces ≠ [] := by
  cases joined <;> exact List.cons_ne_nil _ _

theorem AreJoined.kept_eq (joined : AreJoined pieces) : kept pieces = pieces := by
  cases joined <;> rfl

theorem AreJoined.ending?_of_unprinted (joined : AreJoined pieces)
    (none : (fields pieces).any printed = false) : ending? printed pieces = .none := by
  cases joined with
  | last => rfl
  | @next field letter text rest _ =>
      rw [fields_next, List.any_cons, Bool.or_eq_false_iff] at none
      simp only [ending?, none.1, none.2, Bool.false_eq_true, if_false]

/-- If anything is printed, the last unit is printed unless a separator ends the text. -/
theorem AreJoined.ending?_eq_none_iff (joined : AreJoined pieces)
    (some : (fields pieces).any printed = true) :
    ending? printed pieces = none ↔ (fields pieces).getLast?.any printed = true := by
  induction joined with
  | @last field letter =>
      rw [fields_last, List.any_cons, List.any_nil, Bool.or_false] at some
      rw [fields_last, List.getLast?_singleton, Option.any_some, some]
      exact iff_of_true rfl rfl
  | @next field letter text rest joined ih =>
      have last : (field :: fields rest).getLast? = (fields rest).getLast? :=
        List.getLast?_cons_of_ne_nil joined.fields_ne_nil
      rw [fields_next, last, ending?]
      cases later : (fields rest).any printed with
      | true =>
          rw [if_pos rfl]
          exact ih later
      | false =>
          rw [fields_next, List.any_cons, later, Bool.or_false] at some
          rw [if_neg Bool.false_ne_true, if_pos some]
          refine iff_of_false (Option.some_ne_none text) fun lastPrinted => ?_
          cases found : (fields rest).getLast? with
          | none =>
              rw [found] at lastPrinted
              cases lastPrinted
          | some other =>
              rw [found, Option.any_some] at lastPrinted
              have member := List.mem_of_getLast? found
              rw [List.any_eq_true.mpr ⟨other, member, lastPrinted⟩] at later
              cases later

end Ending

variable {settings : ParseSettings} {period : Period} {present : PeriodFieldSet}
  {pieces : List PeriodPiece} {field : PeriodField} {letter : Char} {text : String}

/-! ## What is printed -/

/-- A separator is printed behind every unit that is. -/
theorem printFrom_behind_unit (period : Period) (present : PeriodFieldSet) (field : PeriodField)
    (text : String) (pieces : List PeriodPiece) :
    Element.printFrom period.printContext (if prints period present field then 1 else 0)
        ((separator .ifFieldsBefore text :: pieces).map (element present)) =
      (if prints period present field then text.toList else []) ++
        Element.printFrom period.printContext 0 (pieces.map (element present)) := by
  refine (Element.printFrom_separator _ _ _ _).trans (congrArg (· ++ _) ?_)
  cases prints period present field <;> rfl

theorem printFrom_joined (period : Period) (present : PeriodFieldSet) (field : PeriodField)
    (letter : Char) (text : String) (pieces : List PeriodPiece) :
    Element.printFrom period.printContext 0
        ((unit field letter :: separator .ifFieldsBefore text :: pieces).map (element present)) =
      Element.print period.printContext ((unit field letter).element present) ++
        ((if prints period present field then text.toList else []) ++
          Element.printFrom period.printContext 0 (pieces.map (element present))) := by
  rw [List.map_cons, Element.printFrom_element _ _ (not_isSeparator_unit _ _ _), fieldCount_unit,
    Nat.zero_add, printFrom_behind_unit]

theorem AreJoined.printFrom_eq_nil_iff (joined : AreJoined pieces) (given : "" ∉ texts pieces) :
    Element.printFrom period.printContext 0 (pieces.map (element present)) = [] ↔
      (fields pieces).any (prints period present) = false := by
  induction joined with
  | @last field letter =>
      rw [fields_last, List.any_cons, List.any_nil, Bool.or_false, List.map_cons, List.map_nil,
        Element.printFrom_element _ _ (not_isSeparator_unit _ _ _), Element.printFrom,
        List.append_nil]
      exact print_unit_eq_nil_iff
  | @next field letter text rest joined ih =>
      have later := ih (texts_of_next given).2
      rw [printFrom_joined, fields_next, List.any_cons, Bool.or_eq_false_iff, List.append_eq_nil_iff,
        List.append_eq_nil_iff, print_unit_eq_nil_iff, later]
      refine and_congr_right fun unprinted => ?_
      rw [unprinted, if_neg Bool.false_ne_true]
      exact and_iff_right rfl

/-- The separator that ends the text. -/
theorem AreJoined.ending?_suffix (joined : AreJoined pieces) (given : "" ∉ texts pieces)
    (shown : ending? (prints period present) pieces = some text) :
    text.toList <:+ Element.printFrom period.printContext 0 (pieces.map (element present)) := by
  induction joined with
  | last => cases shown
  | @next field letter own rest joined ih =>
      have restGiven := (texts_of_next given).2
      rw [printFrom_joined]
      rw [ending?] at shown
      cases later : (fields rest).any (prints period present) with
      | true =>
          rw [later, if_pos rfl] at shown
          have behind := ih restGiven shown
          exact behind.trans ((List.suffix_append _ _).trans (List.suffix_append _ _))
      | false =>
          rw [later, if_neg Bool.false_ne_true] at shown
          rw [(joined.printFrom_eq_nil_iff restGiven).mpr later, List.append_nil]
          split at shown
          · next printed =>
              cases shown
              rw [if_pos printed]
              exact List.suffix_append _ _
          · cases shown

/-! ## What is read -/

/-- Behind a unit its separator is found where the unit was printed, and else not looked for. -/
theorem passSeparator_behind_unit (given : text ≠ "") (period : Period) (present : PeriodFieldSet)
    (field : PeriodField) (letter : Char) (position : Nat) (behind : List Char) :
    let between : Separator := ⟨text, text, .ifFieldsBefore⟩
    let shown := prints period present field
    let start := position + Text.utf8Length
      (Element.print period.printContext ((unit field letter).element present))
    let own := if shown then text.toList else []
    Element.passSeparator between position ⟨start, own ++ behind⟩ =
      (⟨between, shown, start + Text.utf8Length own⟩, ⟨start + Text.utf8Length own, behind⟩) := by
  intro between shown start own
  have unprinted := @print_unit_eq_nil_iff period present field letter
  cases printed : prints period present field with
  | true =>
      have some := mt unprinted.mp (Bool.not_eq_false _ ▸ printed)
      have later : position < start := Nat.lt_add_of_pos_right (Text.utf8Length_pos some)
      have found := Separator.findsTexts_of_same given .ifFieldsBefore text (.inl rfl) start behind
      simp only [Element.passSeparator, between, shown, own, printed, later, if_true, found,
        decide_true, Bool.true_or, Option.isSome_some, Option.getD_some]
  | false =>
      have same : start = position := by
        simp only [start, unprinted.mpr printed, Text.utf8Length_nil, Nat.add_zero]
      simp [Element.passSeparator, between, shown, own, printed, same, SeparatorMode.needsBefore]

/-- The check that a separator behind a unit leaves is at fault exactly if the text ends with it. -/
theorem fault?_behind_unit (text : String) (shown : Bool) (position : Nat) (behind : List Char) :
    PassedSeparator.fault? ⟨⟨text, text, .ifFieldsBefore⟩, shown, position⟩
        (position + Text.utf8Length behind) =
      if shown ∧ behind = [] then
        some ⟨position, { kind := .fieldMissing, params := [.text text] }⟩
      else none := by
  by_cases nothing : behind = []
  · subst nothing
    cases shown <;> simp [PassedSeparator.fault?, SeparatorMode.needsBefore]
  · have later : Text.utf8Length behind ≠ 0 := (Text.utf8Length_pos nothing).ne'
    simp [PassedSeparator.fault?, SeparatorMode.needsBefore, nothing, later]

/-- Reading a text that was printed gets to its end with the amounts. What the checks then find is the
separator that ends the text. -/
theorem parseFrom_joined (culture : settings.culture = .invariant)
    (type : settings.periodType = period.type) (joined : AreJoined pieces) (apart : AreApart pieces)
    (given : "" ∉ texts pieces) (position : Nat) (passed : List PassedSeparator)
    (state : ParseState) :
    let shown := Element.printFrom period.printContext 0 (pieces.map (element present))
    let finish := position + Text.utf8Length shown
    ∃ checks,
      Element.parseFrom settings position passed ⟨position, shown⟩ state
          (pieces.map (element present)) =
        Element.finish (checks ++ passed) ⟨finish, []⟩
          { state with bucket := record present period pieces state.bucket } ∧
      checks.findSome? (·.fault? finish) =
        (ending? (prints period present) pieces).map fun text =>
          ⟨finish, { kind := .fieldMissing, params := [.text text] }⟩ := by
  induction joined generalizing position passed state with
  | @last field letter =>
      intro shown finish
      have only : shown = Element.print period.printContext ((unit field letter).element present) := by
        simp only [shown, List.map_cons, List.map_nil, Element.printFrom, List.append_nil,
          Element.printFrom_element _ _ (not_isSeparator_unit _ _ _)]
      have read := apart.readsBack_unit present culture type 0 position state
      rw [List.map_nil, Element.printFrom, List.append_nil, ← only] at read
      refine ⟨[], ?_, rfl⟩
      rw [List.map_cons, List.map_nil, Element.parseFrom_element (not_isSeparator_unit _ _ _) read,
        Element.parseFrom]
      rfl
  | @next field letter text rest joined ih =>
      intro shown finish
      obtain ⟨textGiven, restGiven⟩ := texts_of_next given
      let unitText := Element.print period.printContext ((unit field letter).element present)
      let own := if prints period present field then text.toList else []
      let behind := Element.printFrom period.printContext 0 (rest.map (element present))
      let stop := position + Text.utf8Length unitText + Text.utf8Length own
      let check : PassedSeparator :=
        ⟨⟨text, text, .ifFieldsBefore⟩, prints period present field, stop⟩
      have shape : shown = unitText ++ (own ++ behind) :=
        printFrom_joined period present field letter text rest
      have whole : stop + Text.utf8Length behind = finish := by
        simp only [finish, stop, shape, Text.utf8Length_append, Nat.add_assoc]
      have read := apart.readsBack_unit present culture type
        (if prints period present field then 1 else 0) position state
      rw [printFrom_behind_unit] at read
      have passes := passSeparator_behind_unit textGiven period present field letter position behind
      obtain ⟨checks, rested, found⟩ := ih apart.tail.tail restGiven stop (check :: passed)
        { state with
          bucket := (NumberField.ofUnit field present (affix letter) false).recordUnit field period
            state.bucket }
      rw [whole] at rested found
      refine ⟨checks ++ [check], ?parsed, ?checked⟩
      case parsed =>
        rw [List.append_assoc, List.singleton_append, record_unit]
        refine .trans ?_ rested
        rw [List.map_cons, shape, Element.parseFrom_element (not_isSeparator_unit _ _ _) read]
        refine (Element.parseFrom_separator _ _ _ _ _ _ _).trans ?_
        rw [passes]
      case checked =>
        have fault := fault?_behind_unit text (prints period present field) stop behind
        have nothing : behind = [] ↔ (fields rest).any (prints period present) = false :=
          joined.printFrom_eq_nil_iff restGiven
        rw [whole] at fault
        rw [List.findSome?_append, found, List.findSome?_singleton, fault, ending?]
        cases later : (fields rest).any (prints period present) with
        | true =>
            have more : behind ≠ [] := mt nothing.mp (Bool.not_eq_false _ ▸ later)
            rw [if_pos rfl, if_neg fun both => more both.2, Option.or_none]
        | false =>
            have last : behind = [] := nothing.mpr later
            have here : stop = finish := by rw [← whole, last, Text.utf8Length_nil, Nat.add_zero]
            rw [if_neg Bool.false_ne_true, joined.ending?_of_unprinted later, Option.map_none,
              Option.none_or, here]
            cases prints period present field with
            | true => rw [if_pos ⟨rfl, last⟩, if_pos rfl, Option.map_some]
            | false => rw [if_neg fun both => Bool.false_ne_true both.1, if_neg Bool.false_ne_true,
                Option.map_none]

end PeriodPiece

namespace PeriodFormatter

open PeriodPiece

/-- A period of the standard type whose units are among those of the format is read back if the last
unit of the format is printed. Of any other such period the text ends with a separator, and that
separator is named where the text is refused. -/
theorem parse_print_joined (handle : Nat) {pieces : List PeriodPiece} {builder : PeriodBuilder}
    (built : build pieces = .ok builder) (joined : AreJoined pieces) (apart : AreApart pieces)
    (distinct : (fields pieces).Nodup) {period : Period} (standard : period.type = .standard)
    (absent : ∀ field, field ∉ fields pieces → period.get field = 0) :
    ∃ formatter text, builder.formatter handle = .ok formatter ∧
      formatter.print period = .ok text ∧
      if (fields pieces).getLast?.any (prints period (present pieces)) then
        formatter.parse text = .ok period
      else
        ∃ separator, ending? (prints period (present pieces)) pieces = some separator ∧
          separator.toList <:+ text.toList ∧
          formatter.parse text = .error (.ofFailure
            { kind := .fieldMissing
              params := [.text separator]
              position? := some (Text.utf8Length text.toList) }) := by
  let tree : FormatTree := ⟨handle, pieces.map (element (present pieces))⟩
  let formatter : PeriodFormatter := { printer? := tree, parser? := tree }
  let shown := Element.printFrom period.printContext 0 tree.elements
  have given := (build_ok built).2
  have finished := formatter_build built handle
  rw [joined.kept_eq] at given finished
  have some : (fields pieces).any (prints period (present pieces)) = true :=
    List.any_eq_true.mpr (exists_printed standard absent joined.fields_ne_nil)
  have text : shown ≠ [] := mt (joined.printFrom_eq_nil_iff given).mp (Bool.not_eq_false _ ▸ some)
  have culture : formatter.parseSettings.culture = .invariant := rfl
  obtain ⟨checks, read, found⟩ :=
    parseFrom_joined culture standard.symm joined apart given 0 [] {}
  rw [List.append_nil, Element.finish, found, Nat.zero_add] at read
  refine ⟨formatter, .ofList shown, finished, ?printed, ?parsed⟩
  case printed => rfl
  rw [String.toList_ofList, parse_of_tree rfl, String.toList_ofList]
  cases last : ending? (prints period (present pieces)) pieces with
  | none =>
      rw [last, Option.map_none] at read
      rw [if_pos ((joined.ending?_eq_none_iff some).mp last),
        parseWhole_of_finished rfl text read "Period"]
      exact congrArg (Except.mapError _) (toPeriod_record standard distinct absent)
  | some separator =>
      rw [last, Option.map_some] at read
      have unprinted := mt (joined.ending?_eq_none_iff some).mpr
        (by rw [last]; exact Option.some_ne_none separator)
      rw [if_neg unprinted, parseWhole_eq_error rfl text read rfl "Period"]
      exact ⟨separator, rfl, joined.ending?_suffix given last, rfl⟩

/-- The last unit of the format is printed of the first period, and is zero in the second. -/
theorem parse_print_joined_both :
    let pieces : List PeriodPiece := [.unit .years 'Y', .separator .ifFieldsBefore "/",
      .unit .hours 'h', .separator .ifFieldsBefore ",;", .unit .days 'd']
    let whole := { Period.zeroOf .standard with years := 2, days := -5 }
    let cut := { Period.zeroOf .standard with years := 2, hours := -5 }
    ∃ builder formatter, build pieces = .ok builder ∧ builder.formatter 0 = .ok formatter ∧
      (∃ text, formatter.print whole = .ok text ∧ formatter.parse text = .ok whole) ∧
      ∃ text, formatter.print cut = .ok text ∧ ",;".toList <:+ text.toList ∧
        formatter.parse text = .error (.ofFailure
          { kind := .fieldMissing
            params := [.text ",;"]
            position? := some (Text.utf8Length text.toList) }) := by
  intro pieces whole cut
  let builder : PeriodBuilder := { elements := pieces.map (element .empty) }
  have built : build pieces = .ok builder := rfl
  have joined : AreJoined pieces := .next (.next .last)
  have apart : AreApart pieces := by decide +kernel
  have absent {period : Period} (others : period = whole ∨ period = cut) :
      ∀ field, field ∉ fields pieces → period.get field = 0 := by
    rcases others with rfl | rfl <;> intro field missing <;> cases field <;> revert missing <;> decide
  obtain ⟨formatter, text, finished, printed, parsed⟩ :=
    parse_print_joined 0 built joined apart (by decide) rfl (absent (.inl rfl))
  obtain ⟨_, cutText, again, cutPrinted, refused⟩ :=
    parse_print_joined 0 built joined apart (by decide) rfl (absent (.inr rfl))
  rw [finished] at again
  cases again
  rw [if_pos (by decide)] at parsed
  rw [if_neg (by decide)] at refused
  obtain ⟨separator, own, ended, failed⟩ := refused
  have last : ending? (prints cut (present pieces)) pieces = some ",;" := by decide
  cases last.symm.trans own
  exact ⟨builder, formatter, built, finished, ⟨text, printed, parsed⟩, cutText, cutPrinted, ended,
    failed⟩

/-- A day is printed with the separator in front of the hours it has not, and refused. -/
theorem roundTrip_refused :
    let pieces : List PeriodPiece :=
      [.unit .days 'd', .separator .ifFieldsBefore ",", .unit .hours 'h']
    let oneDay := { Period.zeroOf .standard with days := 1 }
    AreJoined pieces ∧ arePlain pieces oneDay = true ∧ roundTrip pieces oneDay =
      .ok ("1d,", .error (.ofFailure
        { kind := .fieldMissing, params := [.text ","], position? := some 3 })) := by
  intro pieces oneDay
  refine ⟨.next .last, ?_, ?_⟩
  all_goals decide +kernel

end PeriodFormatter

end ChronoText
