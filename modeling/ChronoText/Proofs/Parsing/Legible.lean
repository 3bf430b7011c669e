import ChronoText.Parsing.Whole
import ChronoText.Printing.Element

/-! Printed text that is read back. An element reads back its text if, whatever has been read before
and with what follows behind it, reading takes just that text. A sequence of elements is legible if
each of its elements reads back and no separator is taken for missing or for present by mistake;
then the whole text of the sequence is read back. -/

set_option autoImplicit false

namespace ChronoText

namespace Cursor

theorem advance_append (position : Nat) (text rest : List Char) :
    (⟨position, text ++ rest⟩ : Cursor).advance text.length =
      ⟨position + Text.utf8Length text, rest⟩ := by
  simp only [advance, List.take_left, List.drop_left]

theorem skip?_append (position : Nat) (expected : String) (rest : List Char) :
    (⟨position, expected.toList ++ rest⟩ : Cursor).skip? expected =
      some ⟨position + Text.utf8Length expected.toList, rest⟩ := by
  simp only [skip?, Text.startsWithCaseless_append, if_true, advance_append]

theorem skip?_eq_none {cursor : Cursor} {expected : String}
    (different : Text.startsWithCaseless expected.toList cursor.rest = false) :
    cursor.skip? expected = none := by
  rw [skip?, different]
  rfl

end Cursor

theorem Text.utf8Length_pos {text : List Char} (some : text ≠ []) : 0 < utf8Length text := by
  cases text with
  | nil => exact absurd rfl some
  | cons c rest =>
      rw [utf8Length_cons]
      have size := c.utf8Size_pos
      omega

namespace Element

/-- With `rest` behind the text of the element, reading takes just that text and changes the bucket
by `effect`. -/
def ReadsBack (settings : ParseSettings) (context : PrintContext) (rest : List Char)
    (element : Element) (effect : Bucket → Bucket) : Prop :=
  ∀ position state,
    parse settings ⟨position, print context element ++ rest⟩ state element =
      (.advanced ⟨position + Text.utf8Length (print context element), rest⟩,
        { state with bucket := effect state.bucket })

def IsSeparator (element : Element) : Prop :=
  ∃ between, element = .separator between

theorem not_isSeparator_literal (literal : Literal) : ¬ IsSeparator (.literal literal) := by
  rintro ⟨between, same⟩
  cases same

theorem not_isSeparator_number (number : NumberField) : ¬ IsSeparator (.number number) := by
  rintro ⟨between, same⟩
  cases same

theorem not_isSeparator_fraction (fraction : FractionField) :
    ¬ IsSeparator (.fraction fraction) := by
  rintro ⟨between, same⟩
  cases same

theorem not_isSeparator_twoDigitYear (year : TwoDigitYear) :
    ¬ IsSeparator (.twoDigitYear year) := by
  rintro ⟨between, same⟩
  cases same

theorem not_isSeparator_offset (style : OffsetStyle) : ¬ IsSeparator (.offset style) := by
  rintro ⟨between, same⟩
  cases same

theorem not_isSeparator_composite (elements : List Element) :
    ¬ IsSeparator (.composite elements) := by
  rintro ⟨between, same⟩
  cases same

end Element

/-- A separator that was printed as `text?`, with `behind` printed behind it, is found there and has
something to stand before; one that was not printed is not asked for and not found. Where nothing
was `touched` since the last separator, one that needs something before it is not looked for. -/
def Separator.ReadsBack (separator : Separator) (touched : Bool) (text? : Option String)
    (behind tail : List Char) : Prop :=
  match text? with
  | some text =>
    (touched = true ∨ separator.mode.needsBefore = false) ∧ behind ≠ [] ∧
      ∀ position, separator.skip? ⟨position, text.toList ++ (behind ++ tail)⟩ =
        some ⟨position + Text.utf8Length text.toList, behind ++ tail⟩
  | none =>
    (behind = [] ∨ separator.mode.needsBefore = true) ∧
      ((touched = false ∧ separator.mode.needsBefore = true) ∨
        ∀ position, separator.skip? ⟨position, behind ++ tail⟩ = none)

/-- The elements read back what they print in front of `tail`, up to the elements that are `left`,
where `before` fields were printed and text was `touched` since the last separator. -/
inductive LegibleUpTo (settings : ParseSettings) (context : PrintContext) (tail : List Char)
    (left : List Element) : Nat → Bool → List Element → (Bucket → Bucket) → Prop where
  | reached {before touched} : LegibleUpTo settings context tail left before touched left id
  | element {before touched element rest effect later} :
      ¬ Element.IsSeparator element →
      element.ReadsBack settings context
        (Element.printFrom context (before + element.fieldCount context) rest ++ tail) effect →
      LegibleUpTo settings context tail left (before + element.fieldCount context)
        (touched || !(element.print context).isEmpty) rest later →
      LegibleUpTo settings context tail left before touched (element :: rest) (later ∘ effect)
  | separator {before touched between rest later} :
      between.ReadsBack touched
        (between.textBetween? before (Element.fieldCountOf context rest))
        (Element.printFrom context 0 rest) tail →
      LegibleUpTo settings context tail left 0 false rest later →
      LegibleUpTo settings context tail left before touched (.separator between :: rest) later

/-- All of the elements read back what they print in front of `tail`. -/
abbrev Legible (settings : ParseSettings) (context : PrintContext) (tail : List Char) :
    Nat → Bool → List Element → (Bucket → Bucket) → Prop :=
  LegibleUpTo settings context tail []

namespace Element

theorem printFrom_separator (context : PrintContext) (before : Nat) (between : Separator)
    (rest : List Element) :
    printFrom context before (.separator between :: rest) =
      ((between.textBetween? before (fieldCountOf context rest)).getD "").toList
        ++ printFrom context 0 rest := by
  rw [printFrom]

theorem printFrom_element (context : PrintContext) (before : Nat) {element : Element}
    (plain : ¬ IsSeparator element) (rest : List Element) :
    printFrom context before (element :: rest) =
      print context element
        ++ printFrom context (before + fieldCount context element) rest := by
  rw [printFrom]
  exact fun between same => plain ⟨between, same⟩

theorem printFrom_ne_nil {context : PrintContext} {element : Element} {elements : List Element}
    (member : element ∈ elements) (plain : ¬ IsSeparator element)
    (some : print context element ≠ []) (before : Nat) :
    printFrom context before elements ≠ [] := by
  induction elements generalizing before with
  | nil => cases member
  | cons first rest ih =>
      by_cases separator : IsSeparator first
      · obtain ⟨between, rfl⟩ := separator
        rw [printFrom_separator]
        rcases List.mem_cons.mp member with rfl | later
        · exact absurd ⟨between, rfl⟩ plain
        · exact List.append_ne_nil_of_right_ne_nil _ (ih later 0)
      · rw [printFrom_element context before separator]
        rcases List.mem_cons.mp member with rfl | later
        · exact List.append_ne_nil_of_left_ne_nil some _
        · exact List.append_ne_nil_of_right_ne_nil _ (ih later _)

theorem parseFrom_separator (settings : ParseSettings) (segment : Nat)
    (passed : List PassedSeparator) (cursor : Cursor) (state : ParseState) (between : Separator)
    (rest : List Element) :
    parseFrom settings segment passed cursor state (.separator between :: rest) =
      parseFrom settings (passSeparator between segment cursor).2.position
        ((passSeparator between segment cursor).1 :: passed)
        (passSeparator between segment cursor).2 state rest := by
  rw [parseFrom]

theorem parseFrom_element {settings : ParseSettings} {cursor next : Cursor}
    {state after : ParseState} {element : Element} (plain : ¬ IsSeparator element)
    (read : parse settings cursor state element = (.advanced next, after)) (segment : Nat)
    (passed : List PassedSeparator) (rest : List Element) :
    parseFrom settings segment passed cursor state (element :: rest) =
      parseFrom settings segment passed next after rest := by
  rw [parseFrom, read]
  exact fun between same => plain ⟨between, same⟩

theorem passSeparator_cases (between : Separator) (segment : Nat) (cursor : Cursor) :
    (∃ next, between.skip? cursor = some next ∧
      passSeparator between segment cursor = (⟨between, true, next.position⟩, next)) ∨
    passSeparator between segment cursor = (⟨between, false, cursor.position⟩, cursor) := by
  unfold passSeparator
  split
  · cases found : between.skip? cursor with
    | some next => exact .inl ⟨next, rfl, rfl⟩
    | none => exact .inr rfl
  · exact .inr rfl

theorem passSeparator_printed {between : Separator} {touched : Bool} {text : String}
    {behind tail : List Char} (clear : between.ReadsBack touched (some text) behind tail)
    {segment position : Nat} (segmented : touched = true → segment < position) :
    passSeparator between segment ⟨position, text.toList ++ (behind ++ tail)⟩ =
      (⟨between, true, position + Text.utf8Length text.toList⟩,
        ⟨position + Text.utf8Length text.toList, behind ++ tail⟩) := by
  obtain ⟨wanted, _, found⟩ := clear
  have looked : (segment < position || !between.mode.needsBefore) = true := by
    rcases wanted with touched | free
    · simp [segmented touched]
    · simp [free]
  simp [passSeparator, looked, found]

theorem passSeparator_unprinted {between : Separator} {touched : Bool} {behind tail : List Char}
    (clear : between.ReadsBack touched none behind tail) {segment position : Nat}
    (segmented : touched = false → segment = position) :
    passSeparator between segment ⟨position, behind ++ tail⟩ =
      (⟨between, false, position⟩, ⟨position, behind ++ tail⟩) := by
  obtain ⟨_, unlooked | missing⟩ := clear
  · simp [passSeparator, segmented unlooked.1, unlooked.2]
  · simp [passSeparator, missing]

/-- Passing a separator takes the text it printed, and leaves a check that no text behind the
separator, up to the end of the elements, sets off. -/
theorem passSeparator_readsBack {between : Separator} {touched : Bool} {text? : Option String}
    {behind tail : List Char} (clear : between.ReadsBack touched text? behind tail)
    {segment position : Nat} (forth : touched = true → segment < position)
    (back : touched = false → segment = position) :
    ∃ check,
      passSeparator between segment ⟨position, (text?.getD "").toList ++ (behind ++ tail)⟩ =
          (check, ⟨position + Text.utf8Length (text?.getD "").toList, behind ++ tail⟩) ∧
        check.fault? (position + Text.utf8Length (text?.getD "").toList
          + Text.utf8Length behind) = none := by
  cases text? with
  | some text =>
      refine ⟨_, passSeparator_printed clear forth, ?_⟩
      have more := Text.utf8Length_pos clear.2.1
      simp only [PassedSeparator.fault?, Option.getD_some, Bool.true_and, Bool.not_true,
        Bool.false_and, Bool.false_eq_true, if_false, decide_eq_true_eq]
      rw [if_neg (by omega)]
  | none =>
      refine ⟨_, passSeparator_unprinted clear back, ?_⟩
      rcases clear.1 with nothing | needed
      · simp [PassedSeparator.fault?, nothing]
      · simp [PassedSeparator.fault?, needed]

/-- Whether text was touched since the last separator shows in the position, and still does behind some
text. -/
theorem touched_behind {touched : Bool} {segment position : Nat}
    (forth : touched = true → segment < position) (back : touched = false → segment = position)
    (text : List Char) :
    ((touched || !text.isEmpty) = true → segment < position + Text.utf8Length text) ∧
      ((touched || !text.isEmpty) = false → segment = position + Text.utf8Length text) := by
  constructor
  · intro touchedAfter
    rw [Bool.or_eq_true, Bool.not_eq_true', List.isEmpty_eq_false_iff] at touchedAfter
    rcases touchedAfter with earlier | now
    · have := forth earlier
      omega
    · have := Text.utf8Length_pos now
      cases touched with
      | false =>
          have := back rfl
          omega
      | true =>
          have := forth rfl
          omega
  · intro untouched
    rw [Bool.or_eq_false_iff, Bool.not_eq_false', List.isEmpty_iff] at untouched
    simp [untouched.2, back untouched.1]

end Element

/-- Reading gets to the elements that are left, and what was passed before is not set off by what
the sequence prints. -/
theorem LegibleUpTo.parseFrom_printFrom {settings : ParseSettings} {context : PrintContext}
    {tail : List Char} {left : List Element} {before : Nat} {touched : Bool}
    {elements : List Element} {effect : Bucket → Bucket}
    (legible : LegibleUpTo settings context tail left before touched elements effect)
    (segment : Nat) (passed : List PassedSeparator) (state : ParseState) {position finish : Nat}
    (forth : touched = true → segment < position) (back : touched = false → segment = position)
    (whole : position + Text.utf8Length (Element.printFrom context before elements) = finish)
    (sound : ∀ check ∈ passed, check.fault? finish = none) :
    ∃ segment' passed' position' before',
      Element.parseFrom settings segment passed
          ⟨position, Element.printFrom context before elements ++ tail⟩ state elements =
        Element.parseFrom settings segment' passed'
          ⟨position', Element.printFrom context before' left ++ tail⟩
          { state with bucket := effect state.bucket } left ∧
      position' + Text.utf8Length (Element.printFrom context before' left) = finish ∧
      ∀ check ∈ passed', check.fault? finish = none := by
  -- The end of the whole text stays the same throughout: the checks of all separators speak of it.
  induction legible generalizing segment position passed state with
  | @reached before touched => exact ⟨segment, passed, position, before, rfl, whole, sound⟩
  | @element before touched element rest effect later plain readsBack _ ih =>
      rw [Element.printFrom_element context before plain] at whole ⊢
      rw [Text.utf8Length_append, ← Nat.add_assoc] at whole
      rw [List.append_assoc, Element.parseFrom_element plain (readsBack position state)]
      obtain ⟨forth, back⟩ := Element.touched_behind forth back (element.print context)
      exact ih segment passed { state with bucket := effect state.bucket } forth back whole sound
  | @separator before touched between rest later clear _ ih =>
      rw [Element.printFrom_separator] at whole ⊢
      rw [Text.utf8Length_append, ← Nat.add_assoc] at whole
      obtain ⟨check, passes, quiet⟩ := Element.passSeparator_readsBack clear forth back
      rw [List.append_assoc, Element.parseFrom_separator, passes]
      refine ih _ (check :: passed) state Bool.false_ne_true.elim (fun _ => rfl) whole ?_
      intro checked member
      rcases List.mem_cons.mp member with rfl | earlier
      · exact whole ▸ quiet
      · exact sound checked earlier

theorem Legible.readsBack {settings : ParseSettings} {context : PrintContext} {tail : List Char}
    {elements : List Element} {effect : Bucket → Bucket}
    (legible : Legible settings context tail 0 false elements effect) :
    Element.ReadsBack settings context tail (.composite elements) effect := by
  intro position state
  obtain ⟨segment, passed, finish, before, read, whole, sound⟩ :=
    legible.parseFrom_printFrom position [] state
      Bool.false_ne_true.elim (fun _ => rfl) rfl (List.forall_mem_nil _)
  rw [Element.printFrom, Text.utf8Length_nil, Nat.add_zero] at whole
  have quiet : passed.findSome? (·.fault? finish) = none :=
    List.findSome?_eq_none_iff.mpr (whole ▸ sound)
  rw [Element.parse, Element.print, read, Element.printFrom, Element.parseFrom, Element.finish,
    quiet, whole]
  rfl

theorem parseWhole_of_finished {elements : List Element} {settings : ParseSettings}
    {text : List Char} {position : Nat} {state : ParseState}
    (start : settings.styles.leadingBlank = false) (given : text ≠ [])
    (read : Element.parseFrom settings 0 [] ⟨0, text⟩ {} elements =
      (.advanced ⟨position, []⟩, state)) (wanted : String) :
    parseWhole elements settings text wanted = .ok state.bucket := by
  have nothing : Text.dropBlank [] = [] := rfl
  simp only [parseWhole, given, if_false, startOf, start, Bool.false_eq_true, Cursor.start,
    Element.parse, read, nothing, ite_self, if_true]
  rfl

theorem finished_of_parseWhole {elements : List Element} {settings : ParseSettings}
    {text : List Char} {wanted : String} {bucket : Bucket}
    (start : settings.styles.leadingBlank = false) (stop : settings.styles.trailingBlank = false)
    (read : parseWhole elements settings text wanted = .ok bucket) :
    text ≠ [] ∧ ∃ position state, Element.parseFrom settings 0 [] ⟨0, text⟩ {} elements =
      (.advanced ⟨position, []⟩, state) ∧ state.bucket = bucket := by
  unfold parseWhole at read
  split at read
  · cases read
  · next given =>
      refine ⟨given, ?_⟩
      simp only [startOf, start, stop, Bool.false_eq_true, if_false, Cursor.start, Element.parse]
        at read
      split at read
      · cases read
      · next cursor state taken =>
          split at read
          · next nothing =>
              obtain ⟨position, rest⟩ := cursor
              cases nothing
              cases read
              exact ⟨position, state, taken, rfl⟩
          · cases read

theorem Legible.parseWhole_print {settings : ParseSettings} {context : PrintContext}
    {elements : List Element} {effect : Bucket → Bucket}
    (legible : Legible settings context [] 0 false elements effect)
    (start : settings.styles.leadingBlank = false)
    (some : Element.print context (.composite elements) ≠ []) (wanted : String) :
    parseWhole elements settings (Element.print context (.composite elements)) wanted =
      .ok (effect .empty) := by
  have read := legible.readsBack 0 {}
  rw [List.append_nil, Element.parse] at read
  exact parseWhole_of_finished start some read wanted

end ChronoText
