import ChronoText.Formatter.PeriodBuilder
import ChronoText.Proofs.Parsing.Legible
import ChronoText.Proofs.Parsing.Units

/-! Layouts of units with separators. A layout is a sequence of units, each with a letter behind its
number, with separators before, between and after them, and possibly a literal in front of it all. A
builder makes its format from it, of which the elements are given here. -/

set_option autoImplicit false

namespace ChronoText

/-- A separator of a layout, which has one text. -/
inductive LayoutSeparator where
  | always (text : String)
  | ifFieldsAfter (text : String)
  deriving DecidableEq

namespace LayoutSeparator

def text : LayoutSeparator → String
  | always text | ifFieldsAfter text => text

def mode : LayoutSeparator → SeparatorMode
  | always _ => .always
  | ifFieldsAfter _ => .ifFieldsAfter

def element (between : LayoutSeparator) : Element :=
  .separator ⟨between.text, between.text, between.mode⟩

def appendTo (builder : PeriodBuilder) : LayoutSeparator → Except FormatError PeriodBuilder
  | always text => builder.appendSeparator text
  | ifFieldsAfter text => builder.appendSeparatorIfFieldsAfter text

end LayoutSeparator

structure LayoutUnit where
  field : PeriodField
  letter : Char
  /-- The separator behind the unit. -/
  behind? : Option LayoutSeparator := none
  deriving DecidableEq

namespace LayoutUnit

/-- Appends the unit, its letter and the separator behind it. -/
def appendTo (builder : PeriodBuilder) (unit : LayoutUnit) : Except FormatError PeriodBuilder := do
  let builder ← (builder.appendUnit unit.field).appendSuffix unit.letter.toString
  match unit.behind? with
  | some between => between.appendTo builder
  | none => pure builder

end LayoutUnit

structure PeriodLayout where
  literal? : Option String := none
  /-- The separator before the first unit. -/
  before? : Option LayoutSeparator := none
  units : List LayoutUnit
  deriving DecidableEq

namespace PeriodLayout

def fields (layout : PeriodLayout) : List PeriodField :=
  layout.units.map (·.field)

def separators (layout : PeriodLayout) : List LayoutSeparator :=
  layout.before?.toList ++ layout.units.flatMap (·.behind?.toList)

def appendLiteral (layout : PeriodLayout) (builder : PeriodBuilder) :
    Except FormatError PeriodBuilder :=
  match layout.literal? with
  | some text => builder.appendLiteral text
  | none => pure builder

def appendBefore (layout : PeriodLayout) (builder : PeriodBuilder) :
    Except FormatError PeriodBuilder :=
  match layout.before? with
  | some between => between.appendTo builder
  | none => pure builder

/-- The builder to which the literal, the separator before the first unit and the units with those
behind them have been appended in turn. -/
def builder (layout : PeriodLayout) : Except FormatError PeriodBuilder := do
  let builder ← layout.appendLiteral {}
  let builder ← layout.appendBefore builder
  layout.units.foldlM LayoutUnit.appendTo builder

end PeriodLayout

/-- The separator has a text, and none of its characters is the letter of a unit, in either case. -/
structure LayoutSeparator.IsClearOf (between : LayoutSeparator) (units : List LayoutUnit) : Prop where
  given : between.text ≠ ""
  ascii : ∀ c ∈ between.text.toList, c.toNat < 128
  noLetter : ∀ c ∈ between.text.toList, ∀ unit ∈ units, c.toLower ≠ unit.letter.toLower

/-- The units and their letters differ from each other, and no letter occurs in a separator. Behind a
literal there are only separators that do not ask for fields before them. -/
structure PeriodLayout.IsDistinct (layout : PeriodLayout) : Prop where
  nonempty : layout.units ≠ []
  fields : layout.fields.Nodup
  alpha : ∀ unit ∈ layout.units, unit.letter.isAlpha = true
  letters : (layout.units.map (·.letter.toLower)).Nodup
  separators : ∀ between ∈ layout.separators, between.IsClearOf layout.units
  literal : ∀ text ∈ layout.literal?, text ≠ "" ∧
    ∀ between ∈ layout.separators, between.mode = .ifFieldsAfter

/-! ## The elements of a layout -/

namespace LayoutUnit

def affix (unit : LayoutUnit) : Affix :=
  .simple unit.letter.toString

def entry (unit : LayoutUnit) : PeriodField × Affix :=
  (unit.field, unit.affix)

def element (present : PeriodFieldSet) (unit : LayoutUnit) : Element :=
  .number (.ofUnit unit.field present unit.affix false)

def elements (present : PeriodFieldSet) (unit : LayoutUnit) : List Element :=
  unit.element present :: unit.behind?.toList.map (·.element)

end LayoutUnit

namespace PeriodLayout

def present (layout : PeriodLayout) : PeriodFieldSet :=
  .ofList layout.fields

/-- The separator before the first unit is only kept if it asks for nothing before it. -/
def beforeElements (layout : PeriodLayout) : List Element :=
  match layout.before? with
  | some (.ifFieldsAfter text) => [.separator ⟨text, text, .ifFieldsAfter⟩]
  | some (.always _) | none => []

def literalElements (layout : PeriodLayout) : List Element :=
  layout.literal?.toList.map fun text => .literal ⟨.given, text⟩

/-- The elements of the layout, whose units are told which units there are. -/
def elements (present : PeriodFieldSet) (layout : PeriodLayout) : List Element :=
  layout.literalElements ++
    (layout.beforeElements ++ layout.units.flatMap (LayoutUnit.elements present))

end PeriodLayout

/-! ## Building -/

/-- A separator can be appended behind anything but a separator. -/
theorem PeriodBuilder.addSeparator_concat {builder : PeriodBuilder} {between : Separator}
    (given : between.text ≠ "") (free : builder.waiting? = none) {last : Element}
    (ends : builder.elements.getLast? = some last) (plain : ¬ last.IsSeparator) :
    builder.addSeparator between = .ok (builder.append (.separator between)) := by
  unfold addSeparator
  simp only [requireText, given, if_false, requireNothingWaiting, free, ends]
  cases last with
  | separator other => exact absurd ⟨other, rfl⟩ plain
  | _ => rfl

namespace LayoutSeparator

variable {between : LayoutSeparator}

theorem appendTo_eq (between : LayoutSeparator) (builder : PeriodBuilder) :
    between.appendTo builder =
      builder.addSeparator ⟨between.text, between.text, between.mode⟩ := by
  cases between <;> rfl

theorem appendTo_concat (given : between.text ≠ "") (elements : List Element) {last : Element}
    (plain : ¬ last.IsSeparator) :
    between.appendTo { elements := elements ++ [last] } =
      .ok { elements := elements ++ [last] ++ [between.element] } := by
  rw [appendTo_eq]
  exact PeriodBuilder.addSeparator_concat given rfl (List.getLast?_concat ..) plain

end LayoutSeparator

namespace LayoutUnit

variable {unit : LayoutUnit}

theorem appendSuffix_concat {text : String} (given : text ≠ "") (elements : List Element)
    {number : NumberField} (bare : number.trailing = none) :
    PeriodBuilder.appendSuffix { elements := elements ++ [.number number] } text =
      .ok { elements := elements ++ [.number { number with trailing := some (.simple text) }] } := by
  unfold PeriodBuilder.appendSuffix PeriodBuilder.setTrailing
  simp only [PeriodBuilder.requireText, given, if_false, PeriodBuilder.requireNothingWaiting,
    List.getLast?_concat, bare, PeriodBuilder.replaceLast, List.dropLast_concat]
  rfl

/-- A unit can be appended whatever comes before it. Which units there are it is only told when the
format is finished. -/
theorem appendTo_eq (given : ∀ between ∈ unit.behind?, between.text ≠ "")
    (elements : List Element) :
    unit.appendTo { elements } = .ok { elements := elements ++ unit.elements .empty } := by
  have text : unit.letter.toString ≠ "" := by
    simp [Char.toString]
  have suffixed : (PeriodBuilder.appendUnit { elements } unit.field).appendSuffix
      unit.letter.toString = .ok { elements := elements ++ [unit.element .empty] } :=
    appendSuffix_concat text elements rfl
  unfold appendTo
  rw [suffixed]
  unfold LayoutUnit.elements
  cases behind : unit.behind? with
  | none => rfl
  | some between =>
      have kept := LayoutSeparator.appendTo_concat (given between behind) elements
        (Element.not_isSeparator_number (.ofUnit unit.field .empty unit.affix false))
      refine Eq.trans kept ?_
      rw [List.append_assoc]
      rfl

theorem foldlM_appendTo {units : List LayoutUnit}
    (given : ∀ unit ∈ units, ∀ between ∈ unit.behind?, between.text ≠ "")
    (elements : List Element) :
    units.foldlM appendTo ({ elements } : PeriodBuilder) =
      .ok { elements := elements ++ units.flatMap (LayoutUnit.elements .empty) } := by
  induction units generalizing elements with
  | nil =>
      rw [List.flatMap_nil, List.append_nil]
      rfl
  | cons unit units ih =>
      obtain ⟨own, others⟩ := List.forall_mem_cons.mp given
      rw [List.foldlM_cons, appendTo_eq own, List.flatMap_cons, ← List.append_assoc]
      exact ih others _

end LayoutUnit

namespace PeriodLayout

variable {layout : PeriodLayout}

theorem mem_separators_of_before {between : LayoutSeparator} (member : between ∈ layout.before?) :
    between ∈ layout.separators := by
  refine List.mem_append_left _ ?_
  rwa [Option.mem_toList]

theorem mem_separators_of_behind {unit : LayoutUnit} (unitMember : unit ∈ layout.units)
    {between : LayoutSeparator} (member : between ∈ unit.behind?) :
    between ∈ layout.separators := by
  refine List.mem_append_right _ (List.mem_flatMap.mpr ⟨unit, unitMember, ?_⟩)
  rwa [Option.mem_toList]

theorem appendLiteral_eq (distinct : layout.IsDistinct) :
    layout.appendLiteral {} = .ok { elements := layout.literalElements } := by
  unfold appendLiteral literalElements
  cases literal : layout.literal? with
  | none => rfl
  | some text =>
      have given := (distinct.literal text literal).1
      simp only [PeriodBuilder.appendLiteral, PeriodBuilder.requireText, given, if_false]
      rfl

theorem appendBefore_eq (distinct : layout.IsDistinct) :
    layout.appendBefore { elements := layout.literalElements } =
      .ok { elements := layout.literalElements ++ layout.beforeElements } := by
  unfold appendBefore beforeElements
  cases before : layout.before? with
  | none =>
      rw [List.append_nil]
      rfl
  | some between =>
      have member := mem_separators_of_before before
      have given := (distinct.separators between member).given
      cases literal : layout.literal? with
      | none =>
          -- Nothing comes before the separator.
          have nothing : layout.literalElements = [] := by
            rw [literalElements, literal]
            rfl
          rw [nothing]
          dsimp only
          rw [LayoutSeparator.appendTo_eq]
          simp only [PeriodBuilder.addSeparator, PeriodBuilder.requireText, given, if_false]
          cases between <;> rfl
      | some text =>
          have shape : layout.literalElements = [] ++ [.literal ⟨.given, text⟩] := by
            rw [literalElements, literal]
            rfl
          have kept := LayoutSeparator.appendTo_concat given []
            (Element.not_isSeparator_literal ⟨.given, text⟩)
          have mode := (distinct.literal text literal).2 between member
          rw [shape]
          cases between with
          | always other => cases mode
          | ifFieldsAfter other => exact kept

theorem builder_eq (distinct : layout.IsDistinct) :
    layout.builder = .ok { elements := layout.elements .empty } := by
  have given : ∀ unit ∈ layout.units, ∀ between ∈ unit.behind?, between.text ≠ "" := by
    intro unit member between behind
    exact (distinct.separators between (mem_separators_of_behind member behind)).given
  have units := LayoutUnit.foldlM_appendTo given (layout.literalElements ++ layout.beforeElements)
  simp only [builder, appendLiteral_eq distinct, appendBefore_eq distinct, bind, Except.bind, units,
    elements, List.append_assoc]

end PeriodLayout

/-! ## Finishing -/

namespace PeriodBuilder

theorem units_append (first second : List Element) :
    units { elements := first ++ second } =
      units { elements := first } ++ units { elements := second } :=
  List.filterMap_append

/-- The element, told which units there are if it is one. -/
def tell (present : PeriodFieldSet) : Element → Element
  | .number number =>
    .number (if number.selector.periodField?.isSome then { number with present } else number)
  | element => element

theorem finishedElements_eq (builder : PeriodBuilder) :
    builder.finishedElements = builder.elements.map (tell (.ofList builder.units)) := by
  refine List.map_congr_left fun element _ => ?_
  cases element <;> rfl

end PeriodBuilder

namespace LayoutUnit

theorem units_flatMap (units : List LayoutUnit) :
    PeriodBuilder.units { elements := units.flatMap (LayoutUnit.elements .empty) } =
      units.map (·.field) := by
  induction units with
  | nil => rfl
  | cons unit units ih =>
      have own : PeriodBuilder.units { elements := unit.elements .empty } = [unit.field] := by
        unfold LayoutUnit.elements
        cases unit.behind? <;> rfl
      rw [List.flatMap_cons, PeriodBuilder.units_append, own, ih, List.map_cons]
      rfl

theorem map_tell (present : PeriodFieldSet) (unit : LayoutUnit) :
    (unit.elements .empty).map (PeriodBuilder.tell present) = unit.elements present := by
  unfold LayoutUnit.elements
  cases unit.behind? <;> rfl

end LayoutUnit

namespace PeriodLayout

variable {layout : PeriodLayout}

theorem units_elements (layout : PeriodLayout) :
    PeriodBuilder.units { elements := layout.elements .empty } = layout.fields := by
  have literal : PeriodBuilder.units { elements := layout.literalElements } = [] := by
    unfold literalElements
    cases layout.literal? <;> rfl
  have before : PeriodBuilder.units { elements := layout.beforeElements } = [] := by
    unfold beforeElements
    split <;> rfl
  rw [elements, PeriodBuilder.units_append, PeriodBuilder.units_append, literal, before,
    LayoutUnit.units_flatMap]
  rfl

theorem finishedElements_elements (layout : PeriodLayout) :
    PeriodBuilder.finishedElements { elements := layout.elements .empty } =
      layout.elements layout.present := by
  have literal : layout.literalElements.map (PeriodBuilder.tell layout.present) =
      layout.literalElements := by
    unfold literalElements
    cases layout.literal? <;> rfl
  have before : layout.beforeElements.map (PeriodBuilder.tell layout.present) =
      layout.beforeElements := by
    unfold beforeElements
    split <;> rfl
  have present : PeriodFieldSet.ofList layout.fields = layout.present := rfl
  rw [PeriodBuilder.finishedElements_eq, units_elements, present, elements, List.map_append,
    List.map_append, literal, before, List.map_flatMap]
  simp only [LayoutUnit.map_tell]
  rfl

theorem formatter_elements (layout : PeriodLayout) (handle : Nat) :
    PeriodBuilder.formatter { elements := layout.elements .empty } handle =
      .ok { printer? := some ⟨handle, layout.elements layout.present⟩
            parser? := some ⟨handle, layout.elements layout.present⟩ } := by
  rw [← finishedElements_elements]
  rfl

end PeriodLayout

end ChronoText
