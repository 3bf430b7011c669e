import ChronoText.Proofs.Formatter.PeriodPieces
import ChronoText.Proofs.Parsing.Faithful
import ChronoText.Proofs.Parsing.Undigited

/-! Texts that are sure to be printed. In front of the first unit that is printed stand all literals, and
those separators that ask for fields after them. Reading that gets to the end takes as much there, even
from a text of which something is missing. -/

set_option autoImplicit false

namespace ChronoText

/-- A separator that is asked for wherever text follows was not missing, or nothing followed. -/
theorem Element.rest_eq_nil_of_missing {settings : ParseSettings} {text : String}
    {segment finish : Nat} {passed : List PassedSeparator} {cursor : Cursor} {state after : ParseState}
    {elements : List Element} (clear : state.failure? = none)
    (read : parseFrom settings segment
      (⟨⟨text, text, .ifFieldsAfter⟩, false, cursor.position⟩ :: passed) cursor state elements =
        (.advanced ⟨finish, []⟩, after)) : cursor.rest = [] := by
  obtain ⟨⟨taken, rest, place⟩, quiet, _⟩ :=
    parseFrom_advanced (fun _ stored => stored) clear read
  by_contra some
  rw [List.append_nil] at rest
  have later : cursor.position < finish := by
    have more := Text.utf8Length_pos some
    rw [rest] at more
    simp only at place
    omega
  have asked := quiet _ List.mem_cons_self
  simp [PassedSeparator.fault?, SeparatorMode.needsBefore, later] at asked

namespace PeriodPiece

/-- The units are told apart, and the literals and separators have texts without digits. -/
structure AreRegular (pieces : List PeriodPiece) : Prop where
  apart : AreApart pieces
  distinct : (fields pieces).Nodup
  free : ∀ mode text, separator mode text ∈ pieces → mode ≠ .ifFieldsBefore
  given : "" ∉ texts pieces
  undigited : ∀ text ∈ texts pieces, Text.HasNoDigit text.toList

namespace AreRegular

variable {pieces others : List PeriodPiece} {piece : PeriodPiece}

theorem of_sublist (regular : AreRegular pieces) (among : others.Sublist pieces) :
    AreRegular others where
  apart := regular.apart.of_sublist among
  distinct := regular.distinct.sublist (among.filterMap field?)
  free := fun mode text member => regular.free mode text (among.subset member)
  given := fun empty => regular.given ((among.filterMap text?).subset empty)
  undigited := fun text member => regular.undigited text ((among.filterMap text?).subset member)

theorem tail (regular : AreRegular (piece :: pieces)) : AreRegular pieces :=
  regular.of_sublist (List.sublist_cons_self piece pieces)

theorem text_ne (regular : AreRegular pieces) {text : String} (member : text ∈ texts pieces) :
    text ≠ "" :=
  ne_of_mem_of_not_mem member regular.given

end AreRegular

/-- What a piece is sure to print: a literal its text, and a separator that asks for fields after it
if there are `more`. -/
def sureText (more : Bool) : PeriodPiece → List Char
  | literal text => text.toList
  | separator .ifFieldsAfter text => if more then text.toList else []
  | separator .always _ | separator .ifFieldsBefore _ | unit _ _ => []

def sureTexts (more : Bool) (pieces : List PeriodPiece) : List Char :=
  pieces.flatMap (sureText more)

variable {settings : ParseSettings} {period : Period} {present : PeriodFieldSet}
  {pieces front behind : List PeriodPiece} {more : Bool}

theorem sureTexts_cons (more : Bool) (piece : PeriodPiece) (pieces : List PeriodPiece) :
    sureTexts more (piece :: pieces) = sureText more piece ++ sureTexts more pieces :=
  List.flatMap_cons

theorem length_sureText_le (more : Bool) (mode : SeparatorMode) (text : String) :
    (sureText more (separator mode text)).length ≤ text.toList.length := by
  cases mode with
  | always | ifFieldsBefore => exact Nat.zero_le _
  | ifFieldsAfter =>
      rw [sureText]
      split
      · exact Nat.le_refl _
      · exact Nat.zero_le _

theorem mem_sureTexts {c : Char} (member : c ∈ sureTexts more pieces) :
    ∃ text ∈ texts pieces, c ∈ text.toList := by
  obtain ⟨piece, among, own⟩ := List.mem_flatMap.mp member
  cases piece with
  | unit field letter => cases own
  | literal text => exact ⟨text, List.mem_filterMap.mpr ⟨_, among, rfl⟩, own⟩
  | separator mode text =>
      refine ⟨text, List.mem_filterMap.mpr ⟨_, among, rfl⟩, ?_⟩
      cases mode with
      | always | ifFieldsBefore => cases own
      | ifFieldsAfter =>
          rw [sureText] at own
          split at own
          · exact own
          · cases own

/-! ## Printing -/

theorem fieldCountOf_append
    (unprinted : ∀ field ∈ fields front, prints period present field = false) :
    Element.fieldCountOf period.printContext ((front ++ behind).map (element present)) =
      Element.fieldCountOf period.printContext (behind.map (element present)) := by
  induction front with
  | nil => rfl
  | cons piece front ih =>
      rw [List.cons_append, List.map_cons, Element.fieldCountOf]
      cases piece with
      | unit field letter =>
          obtain ⟨own, others⟩ := List.forall_mem_cons.mp unprinted
          rw [fieldCount_unit, own, if_neg Bool.false_ne_true, Nat.zero_add, ih others]
      | literal text => rw [element, Element.fieldCount, Nat.zero_add, ih unprinted]
      | separator mode text => rw [element, Element.fieldCount, Nat.zero_add, ih unprinted]

theorem textBetween?_sure {mode : SeparatorMode} {text : String} (free : mode ≠ .ifFieldsBefore)
    {before after : Nat} (counted : more = decide (0 < after)) (calm : before = 0 ∨ more = false) :
    ((Separator.textBetween? ⟨text, text, mode⟩ before after).getD "").toList =
      sureText more (separator mode text) := by
  cases mode with
  | always =>
      have unwanted : before = 0 ∨ after = 0 := calm.imp_right fun last => by
        simpa using counted.symm.trans last
      rw [Separator.textBetween?, if_pos unwanted]
      rfl
  | ifFieldsBefore => exact absurd rfl free
  | ifFieldsAfter =>
      rw [Separator.textBetween?, sureText, counted]
      by_cases last : after = 0
      · simp [last]
      · simp [last, Nat.pos_of_ne_zero last]

/-- In front of the first unit that is printed, or of the end, no other text is printed. -/
theorem printFrom_sureTexts
    (unprinted : ∀ field ∈ fields front, prints period present field = false)
    (free : ∀ mode text, separator mode text ∈ front → mode ≠ .ifFieldsBefore)
    (counted : more = decide
      (0 < Element.fieldCountOf period.printContext (behind.map (element present))))
    {before : Nat} (calm : before = 0 ∨ more = false) :
    ∃ before', (before = 0 → before' = 0) ∧
      Element.printFrom period.printContext before ((front ++ behind).map (element present)) =
        sureTexts more front ++
          Element.printFrom period.printContext before' (behind.map (element present)) := by
  induction front generalizing before with
  | nil => exact ⟨before, id, rfl⟩
  | cons piece front ih =>
      have othersFree : ∀ mode text, separator mode text ∈ front → mode ≠ .ifFieldsBefore :=
        fun mode text member => free mode text (List.mem_cons_of_mem piece member)
      rw [List.cons_append, List.map_cons, sureTexts_cons]
      cases piece with
      | unit field letter =>
          obtain ⟨own, others⟩ := List.forall_mem_cons.mp unprinted
          obtain ⟨before', kept, shown⟩ := ih others othersFree calm
          refine ⟨before', kept, ?_⟩
          rw [Element.printFrom_element _ _ (not_isSeparator_unit _ _ _), fieldCount_unit, own,
            print_unit_eq_nil_iff.mpr own, if_neg Bool.false_ne_true, Nat.add_zero, shown]
          rfl
      | literal text =>
          obtain ⟨before', kept, shown⟩ := ih unprinted othersFree calm
          refine ⟨before', kept, ?_⟩
          rw [List.append_assoc, ← shown]
          exact printFrom_literal _ _ _ _ _
      | separator mode text =>
          obtain ⟨before', kept, shown⟩ := ih unprinted othersFree (.inl rfl)
          refine ⟨before', fun _ => kept rfl, ?_⟩
          rw [List.append_assoc, ← shown]
          refine (Element.printFrom_separator _ _ _ _).trans (congrArg (· ++ _) ?_)
          have after := @fieldCountOf_append period present front behind unprinted
          exact textBetween?_sure (free mode text List.mem_cons_self) (after.symm ▸ counted) calm

theorem printFrom_unprinted
    (unprinted : ∀ field ∈ fields pieces, prints period present field = false)
    (free : ∀ mode text, separator mode text ∈ pieces → mode ≠ .ifFieldsBefore) :
    Element.printFrom period.printContext 0 (pieces.map (element present)) =
      sureTexts false pieces := by
  have counted : false = decide (0 < Element.fieldCountOf period.printContext
      (([] : List PeriodPiece).map (element present))) := rfl
  obtain ⟨_, _, shown⟩ := printFrom_sureTexts unprinted free counted (.inl rfl)
  rwa [List.append_nil, List.map_nil, Element.printFrom, List.append_nil] at shown

/-! ## Reading -/

theorem parse_literal (exact : settings.styles.innerBlank = false) (text : String)
    (cursor : Cursor) (state : ParseState) :
    Element.parse settings cursor state ((literal text).element present) =
      match cursor.skip? text with
      | some next => (.advanced next, state)
      | none => state.fail ⟨cursor.position, Literal.mismatch ⟨.given, text⟩ text⟩ := by
  rw [element, Element.parse, Literal.read, exact]
  cases found : cursor.skip? text <;> simp only [Literal.resolve, Bool.false_and, Bool.false_eq_true,
    if_false, found] <;> rfl

theorem parse_unit_hidden {field : PeriodField} {letter : Char} {text : List Char}
    (hidden : ∀ c ∈ text, Text.sameLetter letter c = false) (position : Nat) (state : ParseState) :
    Element.parse settings ⟨position, text⟩ state ((unit field letter).element present) =
      (.advanced ⟨position, text⟩, state) := by
  have missing := Affix.distance?_of_avoids hidden
  rw [element, Element.parse, NumberField.parse, affix, NumberField.read_ofUnit_absent missing]

/-- Reading that gets to the end takes, in front of what stands behind, no digit and at least as many
characters as are sure to be printed there. -/
theorem parseFrom_sureTexts (exact : settings.styles.innerBlank = false) (regular : AreRegular front)
    {rest : List Element} {cursor : Cursor} {segment finish : Nat} {passed : List PassedSeparator}
    {state after : ParseState} (clear : state.failure? = none)
    (hidden : ∀ letter ∈ letters front, ∀ c ∈ cursor.rest, Text.sameLetter letter c = false)
    (digit : more = true → ¬ Text.HasNoDigit cursor.rest)
    (read : Element.parseFrom settings segment passed cursor state
      (front.map (element present) ++ rest) = (.advanced ⟨finish, []⟩, after)) :
    ∃ segment' passed' next, cursor.PassesNoDigit next (sureTexts more front).length ∧
      Element.parseFrom settings segment' passed' next state rest =
        (.advanced ⟨finish, []⟩, after) := by
  induction front generalizing segment passed cursor with
  | nil => exact ⟨segment, passed, cursor, .refl cursor, read⟩
  | cons piece front ih =>
      rw [List.map_cons, List.cons_append] at read
      rw [sureTexts_cons, List.length_append]
      cases piece with
      | unit field letter =>
          obtain ⟨ownHidden, othersHidden⟩ := List.forall_mem_cons.mp hidden
          rw [Element.parseFrom_element (not_isSeparator_unit _ _ _)
            (parse_unit_hidden ownHidden cursor.position state)] at read
          rw [sureText, List.length_nil, Nat.zero_add]
          exact ih regular.tail othersHidden digit read
      | literal own =>
          have undigited := regular.undigited own List.mem_cons_self
          have parsed := @parse_literal settings present exact own cursor state
          cases found : cursor.skip? own with
          | none =>
              rw [found] at parsed
              rw [Element.parseFrom_failed (not_isSeparator_literal _ _) parsed] at read
              cases read
          | some next =>
              rw [found] at parsed
              rw [Element.parseFrom_element (not_isSeparator_literal _ _) parsed] at read
              have first := Cursor.passesNoDigit_of_skip? undigited found
              obtain ⟨segment', passed', last, later, done⟩ := ih regular.tail
                (fun letter member c occurs => hidden letter member c (first.mem_of_mem occurs))
                (fun more => mt first.hasNoDigit (digit more)) read
              exact ⟨segment', passed', last, first.trans later, done⟩
      | separator mode own =>
          have undigited := regular.undigited own List.mem_cons_self
          rw [element, Element.parseFrom_separator] at read
          rcases Element.passSeparator_cases ⟨own, own, mode⟩ segment cursor with
            ⟨next, found, passes⟩ | missing
          · rw [passes] at read
            rw [Separator.skip?_same (regular.text_ne List.mem_cons_self)] at found
            have first := Cursor.passesNoDigit_of_skip? undigited found
            obtain ⟨segment', passed', last, later, done⟩ := ih regular.tail
              (fun letter member c occurs => hidden letter member c (first.mem_of_mem occurs))
              (fun more => mt first.hasNoDigit (digit more)) read
            refine ⟨segment', passed', last, (first.mono ?_).trans later, done⟩
            exact length_sureText_le more mode own
          · rw [missing] at read
            have none : sureText more (separator mode own) = [] := by
              cases mode with
              | always | ifFieldsBefore => rfl
              | ifFieldsAfter =>
                  rw [sureText, if_neg]
                  intro wanted
                  have nothing := Element.rest_eq_nil_of_missing clear read
                  exact digit wanted (nothing ▸ List.forall_mem_nil _)
            rw [none, List.length_nil, Nat.zero_add]
            exact ih regular.tail hidden digit read

end PeriodPiece

end ChronoText
