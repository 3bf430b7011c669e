import ChronoText.Pattern.Standard
import ChronoText.Temporal.Calendar

/-! The elements that patterns compile to. Whatever a pattern is, its numbers are components of a
date-time that may have as many digits as the ISO calendar gives them, its fractions have one to nine
digits, and its literals have a text. A number gets a fixed width if a numeric element comes right
behind it. -/

set_option autoImplicit false

namespace ChronoText

theorem Text.toString_ne_empty (c : Char) : c.toString ≠ "" := by
  intro same
  have characters := congrArg String.toList same
  simp at characters

theorem Text.ofList_ne_empty {text : List Char} (some : text ≠ []) : String.ofList text ≠ "" := by
  intro same
  have characters := congrArg String.toList same
  simp only [String.toList_ofList, String.toList_empty] at characters
  exact some characters

/-- A letter of a pattern stands for the component as a number. -/
def DateTimeField.HasLetter : DateTimeField → Prop
  | .era | .halfDayOfDay | .millisOfSecond | .millisOfDay | .nanoOfSecond => False
  | _ => True

inductive Element.IsCompiled : Element → Prop where
  | literal {literal} : literal.text ≠ "" → IsCompiled (.literal literal)
  | number {field count} (fixedWidth : Bool) :
      field.HasLetter →
      IsCompiled (.number
        { NumberField.ofDateTime field count (Iso.maximumDigits field) with fixedWidth })
  | name {name} : IsCompiled (.name name)
  | fraction {fraction} :
      0 < fraction.digits → fraction.digits ≤ 9 → IsCompiled (.fraction fraction)
  | twoDigitYear {year} : IsCompiled (.twoDigitYear year)
  | offset {style} : IsCompiled (.offset style)

namespace PatternLetter

theorem number_isCompiled {field : DateTimeField} (letter : field.HasLetter) (count : Nat) :
    (number field count (Iso.maximumDigits field)).IsCompiled :=
  .number false letter

theorem year_isCompiled {field : DateTimeField} (letter : field.HasLetter)
    (six : Iso.maximumDigits field = 6) (count : Nat) : (year field count).IsCompiled := by
  unfold year
  split
  · exact .twoDigitYear
  · exact six ▸ number_isCompiled letter count

theorem ofDigits_isCompiled (count : Nat) :
    Element.IsCompiled (.fraction (.ofDigits count)) := by
  refine .fraction ?_ ?_ <;> simp only [FractionField.ofDigits] <;> omega

theorem element?_isCompiled {letter : Char} {count : Nat} {element : Element}
    (known : element? letter count = some element) : element.IsCompiled := by
  unfold element? at known
  split at known
  all_goals
    first
      | cases known
      | split at known <;> cases known
  all_goals
    first
      | exact number_isCompiled (by trivial) count
      | exact year_isCompiled (by trivial) (by rfl) count
      | exact .name
      | exact .offset
      | exact ofDigits_isCompiled count

end PatternLetter

/-- The element with the given width if it is a number, and else as it is. -/
def Element.withFixedWidth (fixedWidth : Bool) : Element → Element
  | .number field => .number { field with fixedWidth }
  | element => element

namespace Pattern

theorem element_isCompiled {letter : Char} {count position : Nat} {element : Element}
    (read : PatternLetter.element letter count position = .ok element) : element.IsCompiled := by
  unfold PatternLetter.element at read
  split at read
  · next known =>
      cases read
      exact PatternLetter.element?_isCompiled known
  · cases read

theorem token_isCompiled {c : Char} {index : Nat} {cursor next : PatternCursor}
    {element? : Option Element} (read : token c index cursor = .ok (element?, next)) :
    ∀ element ∈ element?, element.IsCompiled := by
  unfold token percentToken escapeToken quotedToken letterToken at read
  simp only [bind, Except.bind, pure, Except.pure, throw, throwThe,
    MonadExceptOf.throw] at read
  repeat' split at read
  all_goals cases read
  all_goals
    intro element member
    cases member
  all_goals
    first
      | exact element_isCompiled ‹_›
      | exact .literal (Text.toString_ne_empty _)
      | exact .literal (Text.ofList_ne_empty ‹_›)
      | exact .literal (by decide)

theorem compileFrom_isCompiled {index : Nat} {pattern : List Char} {elements : List Element}
    (compiled : compileFrom index pattern = .ok elements) :
    ∀ element ∈ elements, element.IsCompiled := by
  fun_induction compileFrom index pattern generalizing elements with
  | case1 index =>
      cases compiled
      exact fun element member => nomatch member
  | case2 index c rest failure read => cases compiled
  | case3 index c rest element? next read shorter ih =>
      cases later : compileFrom next.index next.rest with
      | error failure =>
          rw [later] at compiled
          cases compiled
      | ok elements =>
          rw [later] at compiled
          cases compiled
          intro element member
          rcases List.mem_append.mp member with first | others
          · exact token_isCompiled read element (Option.mem_toList.mp first)
          · exact ih later element others

theorem fixWidths_isCompiled {elements : List Element}
    (compiled : ∀ element ∈ elements, element.IsCompiled) :
    ∀ element ∈ fixWidths elements, element.IsCompiled := by
  fun_induction fixWidths elements with
  | case1 field next rest ih =>
      obtain ⟨own, others⟩ := List.forall_mem_cons.mp compiled
      refine List.forall_mem_cons.mpr ⟨?_, ih others⟩
      cases own with
      | number fixedWidth letter =>
          split
          · exact .number _ letter
          · exact .number _ letter
  | case2 element rest _ ih =>
      obtain ⟨own, others⟩ := List.forall_mem_cons.mp compiled
      exact List.forall_mem_cons.mpr ⟨own, ih others⟩
  | case3 => exact compiled

theorem withFixedWidth_false {element : Element}
    (free : ∀ field, element = .number field → field.fixedWidth = false) :
    element.withFixedWidth false = element := by
  cases element with
  | number field =>
      obtain ⟨selector, minDigits, maxParsedDigits, fixedWidth⟩ := field
      cases free _ rfl
      rfl
  | _ => rfl

/-- Exactly the numbers right before a numeric element get a fixed width. -/
theorem getElem?_fixWidths {elements : List Element}
    (free : ∀ field, Element.number field ∈ elements → field.fixedWidth = false) (i : Nat) :
    (fixWidths elements)[i]? =
      elements[i]?.map (Element.withFixedWidth (elements[i + 1]?.any Element.isNumeric)) := by
  fun_induction fixWidths elements generalizing i with
  | case1 field next rest ih =>
      have later := ih fun field member => free field (List.mem_cons_of_mem _ member)
      cases i with
      | succ i => exact later i
      | zero =>
          have own := withFixedWidth_false fun other same =>
            free other (same ▸ List.mem_cons_self)
          simp only [List.getElem?_cons_zero, List.getElem?_cons_succ, Option.any_some,
            Option.map_some]
          cases next.isNumeric with
          | true => rfl
          | false => exact congrArg some own.symm
  | case2 element rest notBefore ih =>
      have later := ih fun field member => free field (List.mem_cons_of_mem _ member)
      cases i with
      | succ i => exact later i
      | zero =>
          cases rest with
          | nil =>
              have own := withFixedWidth_false fun other same =>
                free other (same ▸ List.mem_cons_self)
              exact congrArg some own.symm
          | cons next rest =>
              cases element with
              | number field => exact (notBefore field next rest rfl rfl).elim
              | _ => rfl
  | case3 => rfl

theorem fixedWidth_withFixedWidth {fixedWidth : Bool} {element : Element} {field : NumberField}
    (same : element.withFixedWidth fixedWidth = .number field) : field.fixedWidth = fixedWidth := by
  cases element with
  | number own =>
      cases same
      rfl
  | _ => cases same

/-- A number has a fixed width just if a number, a fraction or a year of two digits follows it. -/
theorem fixedWidth_fixWidths {elements : List Element}
    (free : ∀ field, Element.number field ∈ elements → field.fixedWidth = false) {i : Nat}
    {field : NumberField} (found : (fixWidths elements)[i]? = some (.number field)) :
    field.fixedWidth = true ↔
      (∃ number, elements[i + 1]? = some (.number number)) ∨
        (∃ fraction, elements[i + 1]? = some (.fraction fraction)) ∨
          ∃ year, elements[i + 1]? = some (.twoDigitYear year) := by
  rw [getElem?_fixWidths free] at found
  obtain ⟨element, _, same⟩ := Option.map_eq_some_iff.mp found
  rw [fixedWidth_withFixedWidth same]
  cases elements[i + 1]? with
  | none => simp
  | some next =>
      rw [Option.any_some, Element.isNumeric_iff]
      simp only [Option.some.injEq]

theorem compile_isCompiled {pattern : List Char} {elements : List Element}
    (compiled : compile pattern = .ok elements) : ∀ element ∈ elements, element.IsCompiled := by
  unfold compile at compiled
  cases tokens : compileFrom 0 pattern with
  | error failure =>
      rw [tokens] at compiled
      cases compiled
  | ok elements =>
      rw [tokens] at compiled
      cases compiled
      exact fixWidths_isCompiled (compileFrom_isCompiled tokens)

theorem elements_isCompiled {culture : Culture} {pattern : String} {elements : List Element}
    (compiled : Pattern.elements culture pattern = .ok elements) :
    ∀ element ∈ elements, element.IsCompiled := by
  unfold Pattern.elements at compiled
  split at compiled
  · cases compiled
  · split at compiled
    · exact compile_isCompiled compiled
    · cases compiled
  · exact compile_isCompiled compiled

end Pattern

end ChronoText
