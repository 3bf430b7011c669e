import ChronoText.Proofs.Formatter.PeriodPieces
import ChronoText.Proofs.Parsing.Elements

/-! Literals among units and separators. Printing goes by the units around a separator, and reading by
the text around it, of which literals are a part. So a period is read back where no separator that was
left out is looked for or asked for on account of a literal. -/

set_option autoImplicit false

namespace ChronoText

/-- Whether a separator that was left out is not asked for in front of a text, and not found there. The
mode `ifFieldsAfter` asks for the separator wherever text follows; the others look for it where text
was `touched` since the last separator. -/
def Separator.passesUnprinted (between : Separator) (touched : Bool) (behind : List Char) : Bool :=
  match between.mode with
  | .ifFieldsAfter => behind.isEmpty
  | .always | .ifFieldsBefore =>
    !touched || !Text.startsWithCaseless between.text.toList behind

namespace Element

/-- Whether every separator that is left out passes, where `before` fields were printed and text was
`touched` since the last separator. -/
def separatorsPass (context : PrintContext) : Nat → Bool → List Element → Bool
  | _, _, [] => true
  | before, touched, .separator between :: rest =>
    ((between.textBetween? before (fieldCountOf context rest)).isSome ||
        between.passesUnprinted touched (printFrom context 0 rest)) &&
      separatorsPass context 0 false rest
  | before, touched, element :: rest =>
    separatorsPass context (before + fieldCount context element)
      (touched || !(print context element).isEmpty) rest

theorem exists_fieldCount_ne_zero {context : PrintContext} {elements : List Element}
    (some : fieldCountOf context elements ≠ 0) :
    ∃ element ∈ elements, fieldCount context element ≠ 0 := by
  induction elements with
  | nil => exact absurd rfl some
  | cons element rest ih =>
      by_cases own : fieldCount context element = 0
      · rw [fieldCountOf, own, Nat.zero_add] at some
        obtain ⟨other, member, counted⟩ := ih some
        exact ⟨other, List.mem_cons_of_mem _ member, counted⟩
      · exact ⟨element, List.mem_cons_self, own⟩

end Element

namespace Separator

variable {mode : SeparatorMode} {text : String} {before after : Nat} {touched : Bool}
  {behind : List Char}

/-- A separator of one text is found where it was printed, in front of fields, and passes elsewhere. -/
theorem readsBack_passing (given : text ≠ "") (free : mode ≠ .ifFieldsBefore)
    (counted : 0 < before → touched = true) (some : after ≠ 0 → behind ≠ [])
    (passes : ((textBetween? ⟨text, text, mode⟩ before after).isSome ||
      passesUnprinted ⟨text, text, mode⟩ touched behind) = true) :
    ReadsBack ⟨text, text, mode⟩ touched (textBetween? ⟨text, text, mode⟩ before after) behind
      [] := by
  cases printed : textBetween? ⟨text, text, mode⟩ before after with
  | some shown =>
      have own := textBetween?_text printed
      have found (position : Nat) := findsTexts_of_same given mode shown own position (behind ++ [])
      obtain ⟨more, wanted⟩ := wanted_of_textBetween?_eq_some printed free
      refine ⟨?_, some more, found⟩
      rcases wanted with fields | same
      · exact .inl (counted fields)
      · have same : mode = .ifFieldsAfter := same
        subst same
        exact .inr rfl
  | none =>
      rw [printed, Option.isSome_none, Bool.false_or] at passes
      cases mode with
      | always =>
          refine ⟨.inr rfl, ?_⟩
          rcases Bool.or_eq_true_iff.mp passes with untouched | different
          · exact .inl ⟨(Bool.not_eq_true' _).mp untouched, rfl⟩
          · rw [List.append_nil]
            have missing := (Bool.not_eq_true' _).mp different
            exact .inr fun position => (skip?_same given _ _).trans (Cursor.skip?_eq_none missing)
      | ifFieldsBefore => exact absurd rfl free
      | ifFieldsAfter =>
          have nothing : behind = [] := List.isEmpty_iff.mp passes
          subst nothing
          exact ⟨.inl rfl, .inr fun position => skip?_nil _ position⟩

end Separator

namespace PeriodPiece

variable {settings : ParseSettings} {period : Period} {present : PeriodFieldSet}
  {pieces : List PeriodPiece}

theorem printFrom_ne_nil_of_fields
    (some : Element.fieldCountOf period.printContext (pieces.map (element present)) ≠ 0)
    (before : Nat) :
    Element.printFrom period.printContext before (pieces.map (element present)) ≠ [] := by
  obtain ⟨_, member, counted⟩ := Element.exists_fieldCount_ne_zero some
  obtain ⟨piece, pieceMember, rfl⟩ := List.mem_map.mp member
  cases piece with
  | unit field letter =>
      have text := isEmpty_print_unit period present field letter
      rw [decide_eq_true (Nat.pos_of_ne_zero counted), Bool.not_eq_true',
        List.isEmpty_eq_false_iff] at text
      exact Element.printFrom_ne_nil member (not_isSeparator_unit _ _ _) text before
  | literal text =>
      rw [element, Element.fieldCount] at counted
      exact absurd rfl counted
  | separator mode text =>
      rw [element, Element.fieldCount] at counted
      exact absurd rfl counted

variable (period present) in
/-- Where fields were printed since the last separator, text was touched. -/
theorem touched_of_counted (field : PeriodField) (letter : Char) {before : Nat} {touched : Bool}
    (counted : 0 < before → touched = true)
    (some : 0 < before +
      Element.fieldCount period.printContext ((unit field letter).element present)) :
    (touched ||
      !(Element.print period.printContext ((unit field letter).element present)).isEmpty) = true := by
  rw [isEmpty_print_unit, Bool.or_eq_true, decide_eq_true_eq]
  exact (Nat.add_pos_iff_pos_or_pos.mp some).imp_left counted

theorem readsBack_literal (culture : settings.culture = .invariant)
    (exact : settings.styles.innerBlank = false) (period : Period) (present : PeriodFieldSet)
    (text : String) (behind : List Char) :
    Element.ReadsBack settings period.printContext behind ((literal text).element present) id :=
  Literal.readsBack culture _ exact behind

theorem legible (culture : settings.culture = .invariant)
    (exact : settings.styles.innerBlank = false) (type : settings.periodType = period.type)
    (apart : AreApart pieces) (given : "" ∉ texts pieces)
    (free : ∀ mode text, separator mode text ∈ pieces → mode ≠ .ifFieldsBefore) {before : Nat}
    {touched : Bool} (counted : 0 < before → touched = true)
    (passes : Element.separatorsPass period.printContext before touched
      (pieces.map (element present)) = true) :
    Legible settings period.printContext [] before touched (pieces.map (element present))
      (record present period pieces) := by
  induction pieces generalizing before touched with
  | nil => exact .reached
  | cons piece pieces ih =>
      obtain ⟨ownGiven, othersGiven⟩ := not_mem_texts_cons.mp given
      have othersFree : ∀ mode text, separator mode text ∈ pieces → mode ≠ .ifFieldsBefore :=
        fun mode text member => free mode text (List.mem_cons_of_mem piece member)
      have later {before : Nat} {touched : Bool} := @ih apart.tail othersGiven othersFree before touched
      rw [List.map_cons] at passes ⊢
      cases piece with
      | unit field letter =>
          rw [record_unit]
          refine .element (not_isSeparator_unit _ _ _) ?own (later ?counted passes)
          case own =>
            rw [List.append_nil]
            exact apart.readsBack_unit present culture type _
          case counted => exact touched_of_counted period present field letter counted
      | literal text =>
          exact .element (not_isSeparator_literal present text)
            (readsBack_literal culture exact period present text _)
            (later (fun some => Bool.or_eq_true_iff.mpr (.inl (counted some))) passes)
      | separator mode text =>
          obtain ⟨own, others⟩ := Bool.and_eq_true_iff.mp passes
          refine .separator ?_ (later (fun absurd => absurd.false.elim) others)
          exact Separator.readsBack_passing (mt (congrArg Option.some) ownGiven)
            (free mode text List.mem_cons_self) counted
            (fun some => printFrom_ne_nil_of_fields some 0) own

/-! ## Something is printed -/

theorem mem_kept {piece : PeriodPiece} (member : piece ∈ pieces) (free : piece.needsBefore = false) :
    piece ∈ kept pieces := by
  rw [← List.takeWhile_append_dropWhile (p := needsBefore) (l := pieces)] at member
  rcases List.mem_append.mp member with dropped | own
  · have needed := List.mem_takeWhile_imp dropped
    rw [free] at needed
    cases needed
  · exact own

theorem print_ne_nil (standard : period.type = .standard)
    (absent : ∀ field, field ∉ fields pieces → period.get field = 0)
    (given : "" ∉ texts (kept pieces))
    (some : fields pieces ≠ [] ∨ ∃ text, literal text ∈ pieces) :
    Element.print period.printContext
      (.composite ((kept pieces).map (element (PeriodPiece.present pieces)))) ≠ [] := by
  rw [Element.print]
  rcases some with nonempty | ⟨text, member⟩
  · obtain ⟨field, fieldMember, prints⟩ := exists_printed standard absent nonempty
    obtain ⟨piece, pieceMember, own⟩ := List.mem_filterMap.mp fieldMember
    cases piece with
    | unit _ letter =>
        cases own
        have shown := NumberField.print_ofUnit_ne_nil (affix letter) prints
        exact Element.printFrom_ne_nil (List.mem_map_of_mem (mem_kept pieceMember rfl))
          (not_isSeparator_unit _ _ _) shown 0
    | literal _ => cases own
    | separator _ _ => cases own
  · have among := mem_kept member rfl
    have own : text ≠ "" := ne_of_mem_of_not_mem (List.mem_filterMap.mpr ⟨_, among, rfl⟩) given
    have shown : Element.print period.printContext (.literal ⟨.given, text⟩) ≠ [] := by
      rw [Element.print]
      exact mt String.toList_eq_nil_iff.mp own
    exact Element.printFrom_ne_nil (List.mem_map_of_mem among)
      (not_isSeparator_literal _ _) shown 0

end PeriodPiece

namespace PeriodFormatter

open PeriodPiece

/-- A period of the standard type whose units are among those of the pieces is read back, if there is
a unit or a literal and every separator that is left out passes. -/
theorem parse_print_pieces (handle : Nat) {pieces : List PeriodPiece} {builder : PeriodBuilder}
    (built : build pieces = .ok builder) (apart : AreApart pieces) (distinct : (fields pieces).Nodup)
    (free : ∀ mode text, .separator mode text ∈ pieces → mode ≠ .ifFieldsBefore)
    (some : fields pieces ≠ [] ∨ ∃ text, .literal text ∈ pieces) {period : Period}
    (standard : period.type = .standard)
    (absent : ∀ field, field ∉ fields pieces → period.get field = 0)
    (passes :
      Element.separatorsPass period.printContext 0 false builder.finishedElements = true) :
    ∃ formatter text, builder.formatter handle = .ok formatter ∧
      formatter.print period = .ok text ∧ formatter.parse text = .ok period := by
  let tree : FormatTree := ⟨handle, (kept pieces).map (element (present pieces))⟩
  let formatter : PeriodFormatter := { printer? := tree, parser? := tree }
  have given := (build_ok built).2
  rw [finishedElements_build built] at passes
  have keptFree : ∀ mode text, .separator mode text ∈ kept pieces → mode ≠ .ifFieldsBefore :=
    fun mode text member => free mode text ((kept_sublist pieces).subset member)
  have legible : Legible formatter.parseSettings period.printContext [] 0 false tree.elements
      (record (present pieces) period (kept pieces)) :=
    legible rfl rfl standard.symm (apart.of_sublist (kept_sublist pieces)) given keptFree
      (fun absurd => absurd.false.elim) passes
  have text := print_ne_nil standard absent given some
  have amounts : (record (present pieces) period (kept pieces) .empty).toPeriod .standard =
      .ok period := by
    refine toPeriod_record standard ?_ ?_
    · rwa [fields_kept]
    · rwa [fields_kept]
  have read : formatter.parse (.ofList (tree.print period.printContext)) = .ok period :=
    parse_of_legible rfl legible text amounts
  exact ⟨formatter, _, formatter_build built handle, rfl, read⟩

end PeriodFormatter

end ChronoText
