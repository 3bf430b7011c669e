import ChronoText.Proofs.Parsing.DisguisedReaders
import ChronoText.Proofs.Parsing.Faithful

/-! Elements and trees of them on texts in disguise. Positions are only ever compared with positions
that were met in the same text, so all of them may move on alike. -/

set_option autoImplicit false

namespace ChronoText.Disguise

/-! ## Separators -/

section Separators

variable {culture : Culture} (disguise : Disguise culture)

/-- A separator that was passed, in disguise. -/
def passed (passed : PassedSeparator) : PassedSeparator :=
  { passed with position := passed.position + disguise.shift }

theorem passSeparator_cursor (between : Separator) (segment : Nat) (place : Cursor) :
    Element.passSeparator between (segment + disguise.shift) (disguise.cursor place) =
      (disguise.passed (Element.passSeparator between segment place).1,
        disguise.cursor (Element.passSeparator between segment place).2) := by
  unfold Element.passSeparator
  simp only [position_cursor, Nat.add_lt_add_iff_right, skipSeparator?_cursor]
  split
  · cases between.skip? place <;> rfl
  · rfl

theorem fault?_passed (passed : PassedSeparator) (finish : Nat) :
    (disguise.passed passed).fault? (finish + disguise.shift) =
      (passed.fault? finish).map disguise.fault := by
  unfold PassedSeparator.fault?
  simp only [Disguise.passed, Nat.add_right_cancel_iff, Nat.add_lt_add_iff_right]
  split
  · rfl
  · split <;> rfl

theorem finish_cursor (passed : List PassedSeparator) (place : Cursor) (state : ParseState) :
    Element.finish (passed.map disguise.passed) (disguise.cursor place) (disguise.state state) =
      disguise.ending (Element.finish passed place state) := by
  have found : (passed.map disguise.passed).findSome? (·.fault? (place.position + disguise.shift)) =
      (passed.findSome? (·.fault? place.position)).map disguise.fault := by
    rw [List.findSome?_map, List.map_findSome?]
    exact congrArg (passed.findSome? ·) (funext fun one => disguise.fault?_passed one _)
  unfold Element.finish
  rw [position_cursor, found]
  cases passed.findSome? (·.fault? place.position) with
  | none => rfl
  | some fault => exact disguise.fail_state state fault

end Separators

/-! ## Elements -/

section Trees

open Element

variable {settings : ParseSettings} (disguise : Disguise settings.culture)

theorem settle_read (read : Cursor → Bucket → Except Fault (Cursor × Bucket)) {place : Cursor}
    {state : ParseState}
    (same : read (disguise.cursor place) state.bucket =
      result disguise.fault disguise.taken (read place state.bucket)) :
    (disguise.state state).settle (read (disguise.cursor place) (disguise.state state).bucket) =
      disguise.ending (state.settle (read place state.bucket)) := by
  have bucket : (disguise.state state).bucket = state.bucket := rfl
  rw [bucket, same]
  exact disguise.settle_state state _

mutual

/-- No element notices the disguise, nor does a tree of elements. -/
theorem parse_cursor (place : Cursor) (state : ParseState) : ∀ element : Element,
    parse settings (disguise.cursor place) (disguise.state state) element =
      disguise.ending (parse settings place state element)
  | .literal text => by
      refine disguise.settle_read (fun place bucket =>
        (text.read settings place).map fun next => (next, bucket)) ?_
      rw [disguise.read_literal]
      cases text.read settings place <;> rfl
  | .number field => disguise.parse_number field place state
  | .name field =>
      disguise.settle_read (field.read settings) (disguise.read_name field place state.bucket)
  | .fraction field =>
      disguise.settle_read (field.read settings) (disguise.read_fraction field place state.bucket)
  | .twoDigitYear field =>
      disguise.settle_read (field.read settings) (disguise.read_twoDigitYear field place state.bucket)
  | .offset style => disguise.settle_read style.read (disguise.read_offset style place state.bucket)
  | .separator between => by
      rw [parse, parse, skipSeparator?_cursor]
      cases between.skip? place <;> rfl
  | .composite elements => parseFrom_cursor place.position [] place state elements

theorem parseFrom_cursor (segment : Nat) (passed : List PassedSeparator) (place : Cursor)
    (state : ParseState) : ∀ elements : List Element,
    parseFrom settings (segment + disguise.shift) (passed.map disguise.passed)
        (disguise.cursor place) (disguise.state state) elements =
      disguise.ending (parseFrom settings segment passed place state elements)
  | [] => disguise.finish_cursor passed place state
  | element :: rest => by
      by_cases separator : IsSeparator element
      · obtain ⟨between, rfl⟩ := separator
        rw [parseFrom_separator, parseFrom_separator, passSeparator_cursor]
        exact parseFrom_cursor _ (_ :: passed) _ state rest
      · have disguised := parse_cursor place state element
        cases read : parse settings place state element with
        | mk outcome after =>
            rw [read] at disguised
            cases outcome with
            | advanced next =>
                rw [parseFrom_element separator read, parseFrom_element separator disguised]
                exact parseFrom_cursor segment passed next after rest
            | failedAt position =>
                rw [parseFrom_failed separator read, parseFrom_failed separator disguised]
                rfl

end

end Trees

end ChronoText.Disguise
