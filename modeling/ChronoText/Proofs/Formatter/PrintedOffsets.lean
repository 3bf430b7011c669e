import ChronoText.Proofs.Formatter.Flattening
import ChronoText.Proofs.Parsing.OffsetGrammar

/-! Offsets in the text of a date-time that has none of its own. A finished format keeps whether an
offset is printed anywhere in it, so that a format it is put into need not look inside. Where this
flag is set there has to be a zone, and with a zone each offset leaves a sign and digits. -/

set_option autoImplicit false

namespace ChronoText

namespace Element

/-! ## Offsets at any depth -/

/-- The second element is the first one, or stands in it at some depth. -/
inductive Contains : Element → Element → Prop where
  | here {element : Element} : Contains element element
  | inside {elements : List Element} {element inner : Element} :
      element ∈ elements → Contains element inner → Contains (.composite elements) inner

def HasOffset (element : Element) : Prop :=
  ∃ style, element.Contains (.offset style)

theorem hasOffset_offset (style : OffsetStyle) : HasOffset (.offset style) :=
  ⟨style, .here⟩

theorem hasOffset_composite_iff {elements : List Element} :
    HasOffset (.composite elements) ↔ ∃ element ∈ elements, element.HasOffset := by
  constructor
  · rintro ⟨style, contains⟩
    cases contains with
    | inside member contains => exact ⟨_, member, style, contains⟩
  · rintro ⟨element, member, style, contains⟩
    exact ⟨style, .inside member contains⟩

mutual

/-- Only an offset needs an offset, and a format just if one of its elements does. -/
theorem requiresOffset_iff : ∀ element : Element, element.requiresOffset = true ↔ element.HasOffset
  | .offset style => iff_of_true rfl (hasOffset_offset style)
  | .composite elements => (anyRequiresOffset_iff elements).trans hasOffset_composite_iff.symm
  | .literal _ | .number _ | .name _ | .fraction _ | .twoDigitYear _ | .separator _ => by
    refine iff_of_false Bool.false_ne_true ?_
    rintro ⟨style, contains⟩
    cases contains

theorem anyRequiresOffset_iff :
    ∀ elements : List Element,
      anyRequiresOffset elements = true ↔ ∃ element ∈ elements, element.HasOffset
  | [] => by simp [anyRequiresOffset]
  | element :: rest => by
    rw [anyRequiresOffset, Bool.or_eq_true, requiresOffset_iff element, anyRequiresOffset_iff rest,
      List.exists_mem_cons_iff]

end

mutual

/-- Taken apart, an element leaves just what stands in it and is no format. -/
theorem mem_flatten_iff {leaf : Element} (noFormat : ∀ elements, leaf ≠ .composite elements) :
    ∀ element : Element, leaf ∈ element.flatten ↔ element.Contains leaf
  | .composite elements => by
    rw [flatten, mem_flattenAll_iff noFormat elements]
    constructor
    · rintro ⟨element, member, contains⟩
      exact .inside member contains
    · intro contains
      cases contains with
      | here => exact absurd rfl (noFormat elements)
      | inside member contains => exact ⟨_, member, contains⟩
  | .literal _ | .number _ | .name _ | .fraction _ | .twoDigitYear _ | .offset _
  | .separator _ => by
    constructor
    · intro member
      cases List.mem_singleton.mp member
      exact .here
    · intro contains
      cases contains
      exact List.mem_singleton_self _

theorem mem_flattenAll_iff {leaf : Element} (noFormat : ∀ elements, leaf ≠ .composite elements) :
    ∀ elements : List Element,
      leaf ∈ flattenAll elements ↔ ∃ element ∈ elements, element.Contains leaf
  | [] => by simp [flattenAll]
  | element :: rest => by
    rw [flattenAll, List.mem_append, mem_flatten_iff noFormat element,
      mem_flattenAll_iff noFormat rest, List.exists_mem_cons_iff]

end

end Element

/-! ## The flag that is kept -/

/-- A part of a format as it is kept. A format inside it stands there with the flag that was found
when it was finished. -/
inductive FormatPart where
  | plain (element : Element)
  | format (parts : List FormatPart) (requiresOffset : Bool)

namespace FormatPart

/-- Whether a part needs an offset, without a look inside a format. -/
def requiresOffset : FormatPart → Bool
  | .plain (.offset _) => true
  | .plain _ => false
  | .format _ found => found

/-- Finishes a format. The flags of its parts are gone through once. -/
def finish (parts : List FormatPart) : FormatPart :=
  .format parts (parts.foldl (fun found part => found || part.requiresOffset) false)

mutual

/-- An element as it is kept, the formats inside it finished from the inside out. -/
def ofElement : Element → FormatPart
  | .composite elements => finish (ofElements elements)
  | .literal text => .plain (.literal text)
  | .number field => .plain (.number field)
  | .name field => .plain (.name field)
  | .fraction field => .plain (.fraction field)
  | .twoDigitYear year => .plain (.twoDigitYear year)
  | .offset style => .plain (.offset style)
  | .separator between => .plain (.separator between)

def ofElements : List Element → List FormatPart
  | [] => []
  | element :: rest => ofElement element :: ofElements rest

end

theorem ofElements_concat (elements : List Element) (last : Element) :
    ofElements (elements ++ [last]) = ofElements elements ++ [ofElement last] := by
  induction elements with
  | nil => rw [List.nil_append, ofElements, ofElements, List.nil_append, ofElements]
  | cons element elements ih => rw [List.cons_append, ofElements, ofElements, ih, List.cons_append]

/-- What the loop has found stays found. -/
theorem foldl_requiresOffset (parts : List FormatPart) (found : Bool) :
    parts.foldl (fun found part => found || part.requiresOffset) found =
      (found || parts.any requiresOffset) := by
  induction parts generalizing found with
  | nil => exact (Bool.or_false found).symm
  | cons part parts ih => rw [List.foldl_cons, ih, List.any_cons, Bool.or_assoc]

theorem requiresOffset_finish (parts : List FormatPart) :
    (finish parts).requiresOffset = parts.any requiresOffset :=
  (foldl_requiresOffset parts false).trans (Bool.false_or _)

mutual

/-- No level of nesting loses the flag. -/
theorem requiresOffset_ofElement :
    ∀ element : Element, (ofElement element).requiresOffset = element.requiresOffset
  | .composite elements => (requiresOffset_finish _).trans (any_ofElements elements)
  | .literal _ | .number _ | .name _ | .fraction _ | .twoDigitYear _ | .offset _
  | .separator _ => rfl

theorem any_ofElements :
    ∀ elements : List Element,
      (ofElements elements).any requiresOffset = Element.anyRequiresOffset elements
  | [] => by rw [ofElements, Element.anyRequiresOffset, List.any_nil]
  | element :: rest => by
    rw [ofElements, List.any_cons, requiresOffset_ofElement element, any_ofElements rest,
      Element.anyRequiresOffset]

end

end FormatPart

/-! ## The text in pieces -/

namespace Element

mutual

/-- The text of an element in pieces, each with what has written it, which is no format but stands in
one at whatever depth. -/
def pieces (context : PrintContext) : Element → List (Element × List Char)
  | .composite elements => piecesFrom context 0 elements
  | .literal text => [(.literal text, text.print context)]
  | .number field => [(.number field, field.print context)]
  | .name field => [(.name field, field.print context)]
  | .fraction field => [(.fraction field, field.print context)]
  | .twoDigitYear year => [(.twoDigitYear year, year.print context)]
  | .offset style => [(.offset style, style.print context)]
  | .separator between => [(.separator between, [])]

def piecesFrom (context : PrintContext) (before : Nat) :
    List Element → List (Element × List Char)
  | [] => []
  | .separator between :: rest =>
    (.separator between, ((between.textBetween? before (fieldCountOf context rest)).getD "").toList)
      :: piecesFrom context 0 rest
  | element :: rest =>
    pieces context element ++ piecesFrom context (before + fieldCount context element) rest

end

section Pieces

variable (context : PrintContext)

theorem piecesFrom_separator (before : Nat) (between : Separator) (rest : List Element) :
    piecesFrom context before (.separator between :: rest) =
      (.separator between,
          ((between.textBetween? before (fieldCountOf context rest)).getD "").toList)
        :: piecesFrom context 0 rest := by
  rw [piecesFrom]

theorem piecesFrom_element (before : Nat) {element : Element} (plain : ¬ IsSeparator element)
    (rest : List Element) :
    piecesFrom context before (element :: rest) =
      pieces context element ++ piecesFrom context (before + fieldCount context element) rest := by
  rw [piecesFrom]
  exact fun between same => plain ⟨between, same⟩

mutual

/-- The pieces in turn are the text. -/
theorem flatMap_pieces :
    ∀ element : Element, (pieces context element).flatMap Prod.snd = print context element
  | .composite elements => flatMap_piecesFrom elements 0
  | .literal _ | .number _ | .name _ | .fraction _ | .twoDigitYear _ | .offset _
  | .separator _ => List.flatMap_singleton _ _

theorem flatMap_piecesFrom :
    ∀ (elements : List Element) (before : Nat),
      (piecesFrom context before elements).flatMap Prod.snd = printFrom context before elements
  | [], _ => by rw [piecesFrom, printFrom, List.flatMap_nil]
  | element :: rest, before => by
    by_cases separator : IsSeparator element
    · obtain ⟨between, rfl⟩ := separator
      rw [piecesFrom_separator, printFrom_separator, List.flatMap_cons, flatMap_piecesFrom rest]
    · rw [piecesFrom_element _ _ separator, printFrom_element _ _ separator, List.flatMap_append,
        flatMap_pieces element, flatMap_piecesFrom rest]

end

mutual

/-- There is a piece for each element that is no format, and they stand in the order of these. -/
theorem map_pieces : ∀ element : Element, (pieces context element).map Prod.fst = element.flatten
  | .composite elements => map_piecesFrom elements 0
  | .literal _ | .number _ | .name _ | .fraction _ | .twoDigitYear _ | .offset _
  | .separator _ => rfl

theorem map_piecesFrom :
    ∀ (elements : List Element) (before : Nat),
      (piecesFrom context before elements).map Prod.fst = flattenAll elements
  | [], _ => by rw [piecesFrom, flattenAll, List.map_nil]
  | element :: rest, before => by
    by_cases separator : IsSeparator element
    · obtain ⟨between, rfl⟩ := separator
      rw [piecesFrom_separator, List.map_cons, map_piecesFrom rest]
      rfl
    · rw [piecesFrom_element _ _ separator, List.map_append, map_pieces element,
        map_piecesFrom rest, flattenAll]

end

mutual

/-- Only separators heed what stands around them; the piece of any other element is its own text. -/
theorem text_of_mem_pieces {leaf : Element} {text : List Char} (plain : ¬ IsSeparator leaf) :
    ∀ element : Element, (leaf, text) ∈ pieces context element → text = print context leaf
  | .composite elements, member => text_of_mem_piecesFrom plain elements 0 member
  | .literal _, member | .number _, member | .name _, member | .fraction _, member
  | .twoDigitYear _, member | .offset _, member | .separator _, member => by
    cases List.mem_singleton.mp member
    rfl

theorem text_of_mem_piecesFrom {leaf : Element} {text : List Char} (plain : ¬ IsSeparator leaf) :
    ∀ (elements : List Element) (before : Nat),
      (leaf, text) ∈ piecesFrom context before elements → text = print context leaf
  | [], _, member => by
    rw [piecesFrom] at member
    cases member
  | element :: rest, before, member => by
    by_cases separator : IsSeparator element
    · obtain ⟨between, rfl⟩ := separator
      rw [piecesFrom_separator, List.mem_cons] at member
      rcases member with same | later
      · cases same
        exact absurd ⟨between, rfl⟩ plain
      · exact text_of_mem_piecesFrom plain rest 0 later
    · rw [piecesFrom_element _ _ separator, List.mem_append] at member
      rcases member with own | later
      · exact text_of_mem_pieces plain element own
      · exact text_of_mem_piecesFrom plain rest _ later

end

end Pieces

end Element

/-! ## The text of an offset -/

namespace OffsetStyle

/-- The text is a sign and behind it the digits of the hours, of the minutes and, where there are
any, of the seconds. -/
structure Shows (style : OffsetStyle) (offset : Offset) (text : List Char) : Prop where
  sign : text.head? = some (if offset.seconds < 0 then '-' else '+')
  parts : style.WritesParts [] text.tail offset.seconds.natAbs
  digits : 4 ≤ text.countP Char.isDigit

theorem not_startsWithPart_nil (style : OffsetStyle) : ¬ style.StartsWithPart [] := by
  rintro ⟨value, _, starts⟩
  have empty : style.part value = [] := List.prefix_nil.mp starts
  exact Text.padded_ne_nil '0' 2 value (List.append_eq_nil_iff.mp empty).2

theorem countP_isDigit_padded (value : Nat) : 2 ≤ (Text.padded '0' 2 value).countP Char.isDigit := by
  have digits : ∀ c ∈ Text.padded '0' 2 value, c.isDigit = true := by
    intro c member
    rw [Text.padded_eq_map] at member
    obtain ⟨digit, isDigit, rfl⟩ := List.mem_map.mp member
    by_contra other
    have none := Text.digitValue?_zero_eq_none (Bool.eq_false_iff.mpr other)
    rw [Text.digitValue?_digitChar Text.isZeroDigit_ascii.startsDigits
      (Text.paddedDigits_lt 2 value digit isDigit)] at none
    cases none
  rw [List.countP_eq_length.mpr digits, Text.length_padded]
  exact Nat.le_max_left _ _

theorem WritesParts.digits {style : OffsetStyle} {following parts : List Char} {size : Nat}
    (written : style.WritesParts following parts size) : 4 ≤ parts.countP Char.isDigit := by
  have hoursAndMinutes (hours minutes : Nat) :
      4 ≤ (Text.padded '0' 2 hours ++ style.part minutes).countP Char.isDigit := by
    rw [part, List.countP_append, List.countP_append]
    have early := countP_isDigit_padded hours
    have late := countP_isDigit_padded minutes
    omega
  cases written with
  | toTheMinute _ _ _ => exact hoursAndMinutes _ _
  | toTheSecond _ _ _ =>
      rw [List.countP_append]
      exact Nat.le_add_right_of_le (hoursAndMinutes _ _)

theorem natAbs_seconds (offset : Offset) :
    offset.components.1 * 3600 + offset.components.2.1 * 60 + offset.components.2.2 =
      offset.seconds.natAbs := by
  simp only [Offset.components]
  omega

theorem writesParts_renderParts (style : OffsetStyle) (offset : Offset) :
    style.WritesParts [] (offset.renderParts style.separator?) offset.seconds.natAbs := by
  obtain ⟨hours, minutes, seconds⟩ := offset.components_lt
  rw [← natAbs_seconds, Offset.renderParts, ← List.append_assoc]
  by_cases toTheMinute : offset.components.2.2 = 0
  · rw [if_pos toTheMinute, List.append_nil, toTheMinute, Nat.add_zero]
    exact .toTheMinute hours (Nat.le_of_lt_succ minutes) style.not_startsWithPart_nil
  · rw [if_neg toTheMinute]
    exact .toTheSecond hours (Nat.le_of_lt_succ minutes) (Nat.le_of_lt_succ seconds)

/-- A printed offset is a sign and digits, whichever it is. -/
theorem shows_render (style : OffsetStyle) (offset : Offset) :
    style.Shows offset (offset.render style.separator?) := by
  have written := style.writesParts_renderParts offset
  rw [Offset.render_eq]
  exact ⟨rfl, written, written.digits.trans (List.sublist_cons_self _ _).countP_le⟩

end OffsetStyle

/-! ## Printing without an offset of one's own -/

namespace FormatTree

/-- The tree as it is kept, with its flag. -/
def kept (tree : FormatTree) : FormatPart :=
  .ofElement (.composite tree.elements)

/-- An offset stands in the tree at some depth. -/
def HasOffset (tree : FormatTree) : Prop :=
  Element.HasOffset (.composite tree.elements)

def pieces (tree : FormatTree) (context : PrintContext) : List (Element × List Char) :=
  Element.pieces context (.composite tree.elements)

/-- Each offset of the tree has a piece of the text. -/
theorem contains_offset_iff_pieces (tree : FormatTree) (context : PrintContext)
    (style : OffsetStyle) :
    Element.Contains (.composite tree.elements) (.offset style) ↔
      ∃ written, (.offset style, written) ∈ tree.pieces context := by
  have noFormat : ∀ elements, Element.offset style ≠ .composite elements := nofun
  rw [← Element.mem_flatten_iff noFormat, ← Element.map_pieces context, List.mem_map]
  constructor
  · rintro ⟨⟨leaf, written⟩, member, rfl⟩
    exact ⟨written, member⟩
  · rintro ⟨written, member⟩
    exact ⟨_, member, rfl⟩

theorem requiresOffset_kept (tree : FormatTree) :
    tree.kept.requiresOffset = tree.requiresOffset :=
  FormatPart.requiresOffset_ofElement (.composite tree.elements)

theorem requiresOffset_iff (tree : FormatTree) : tree.requiresOffset = true ↔ tree.HasOffset :=
  Element.requiresOffset_iff (.composite tree.elements)

end FormatTree

namespace DateTimeBuilder

variable {builder next : DateTimeBuilder} {formatter : DateTimeFormatter} {tree : FormatTree}

/-- The tree of a formatter goes into the builder with the flag it was finished with. -/
theorem ofElements_appendFormatter (given : formatter.printer?.or formatter.parser? = some tree)
    (accepted : builder.appendFormatter formatter = .ok next) :
    FormatPart.ofElements next.elements = FormatPart.ofElements builder.elements ++ [tree.kept] := by
  rw [appendFormatter, given] at accepted
  cases accepted
  exact FormatPart.ofElements_concat builder.elements (.composite tree.elements)

theorem requiresOffset_appendFormatter
    (given : formatter.printer?.or formatter.parser? = some tree)
    (accepted : builder.appendFormatter formatter = .ok next) (handle : Nat) :
    (next.tree handle).kept.requiresOffset =
      ((builder.tree handle).kept.requiresOffset || tree.kept.requiresOffset) := by
  have flag (own : DateTimeBuilder) : (own.tree handle).kept.requiresOffset =
      (FormatPart.ofElements own.elements).any FormatPart.requiresOffset :=
    FormatPart.requiresOffset_finish _
  rw [flag, flag, ofElements_appendFormatter given accepted, List.any_append, List.any_cons,
    List.any_nil, Bool.or_false]

end DateTimeBuilder

namespace DateTimeFormatter

variable {formatter : DateTimeFormatter} {tree : FormatTree}

/-- The offset that is printed with a date-time that has none, which is that of the zone. -/
def localOffset? (formatter : DateTimeFormatter) (value : LocalDateTime) : Option Offset :=
  formatter.zone?.map (·.offsetForLocal value)

theorem printLocal_of_zone {zone : Zone} (hasPrinter : formatter.printer? = some tree)
    (hasZone : formatter.zone? = some zone) (value : LocalDateTime) :
    formatter.printLocal value =
      .ok (String.ofList
        (tree.print (formatter.printContext value (some (zone.offsetForLocal value))))) := by
  rw [printLocal, hasPrinter, hasZone]
  rfl

theorem printLocal_of_noZone (hasPrinter : formatter.printer? = some tree)
    (noZone : formatter.zone? = none) (value : LocalDateTime) :
    formatter.printLocal value =
      if tree.requiresOffset then .error Misuse.offsetWithoutZone.error
      else .ok (String.ofList (tree.print (formatter.printContext value none))) := by
  rw [printLocal, hasPrinter, noZone]
  simp only [requirePrinter, pure_bind]
  cases tree.requiresOffset <;> rfl

theorem printLocal_unsupported_iff (hasPrinter : formatter.printer? = some tree)
    (noZone : formatter.zone? = none) (value : LocalDateTime) :
    (∃ error, formatter.printLocal value = .error error ∧ error.kind = .unsupported) ↔
      tree.HasOffset := by
  rw [printLocal_of_noZone hasPrinter noZone, ← tree.requiresOffset_iff]
  cases tree.requiresOffset with
  | true => exact iff_of_true ⟨_, rfl, rfl⟩ rfl
  | false =>
      refine iff_of_false ?_ Bool.false_ne_true
      rintro ⟨error, printed, _⟩
      cases printed

theorem exists_printLocal_iff (hasPrinter : formatter.printer? = some tree)
    (value : LocalDateTime) :
    (∃ text, formatter.printLocal value = .ok text) ↔
      (∃ zone, formatter.zone? = some zone) ∨ ¬ tree.HasOffset := by
  cases hasZone : formatter.zone? with
  | some zone =>
      rw [printLocal_of_zone hasPrinter hasZone]
      exact iff_of_true ⟨_, rfl⟩ (.inl ⟨zone, rfl⟩)
  | none =>
      rw [printLocal_of_noZone hasPrinter hasZone, ← tree.requiresOffset_iff]
      cases tree.requiresOffset with
      | true =>
          refine iff_of_false ?_ (by simp)
          rintro ⟨text, printed⟩
          cases printed
      | false => exact iff_of_true ⟨_, rfl⟩ (.inr Bool.false_ne_true)

/-- A printed text is that of the tree, in which an offset stands only if there is one to print. -/
theorem text_of_printLocal {value : LocalDateTime} {text : String}
    (printed : formatter.printLocal value = .ok text) :
    ∃ tree, formatter.printer? = some tree ∧
      text.toList = tree.print (formatter.printContext value (formatter.localOffset? value)) ∧
      (tree.HasOffset → ∃ offset, formatter.localOffset? value = some offset) := by
  cases hasPrinter : formatter.printer? with
  | none =>
      rw [printLocal, hasPrinter] at printed
      cases printed
  | some tree =>
      refine ⟨tree, rfl, ?_⟩
      rw [localOffset?]
      cases hasZone : formatter.zone? with
      | some zone =>
          rw [printLocal_of_zone hasPrinter hasZone] at printed
          cases printed
          exact ⟨String.toList_ofList, fun _ => ⟨zone.offsetForLocal value, rfl⟩⟩
      | none =>
          -- An offset would print nothing here, so only the flag keeps it from being left out.
          rw [printLocal_of_noZone hasPrinter hasZone] at printed
          split at printed
          · cases printed
          · next noOffset =>
            cases printed
            refine ⟨String.toList_ofList, fun has => ?_⟩
            exact absurd (tree.requiresOffset_iff.mpr has) noOffset

/-- No offset is left out of the text of a date-time that has none. The flag of a tree is set just
if an offset stands in the tree at some depth, and a formatter that is appended hands its flag on.
With a zone there always is a text. Without one there is a text unless an offset stands in the tree,
and then printing is refused as unsupported. In a text that was printed, each offset of the tree stands
as a sign and digits, those of the offset that the zone has for the date-time. -/
theorem printLocal_keeps_offsets :
    (∀ tree : FormatTree,
      tree.requiresOffset = tree.kept.requiresOffset ∧
        (tree.kept.requiresOffset = true ↔ tree.HasOffset)) ∧
    (∀ (builder next : DateTimeBuilder) (formatter : DateTimeFormatter) (tree : FormatTree)
        (handle : Nat),
      formatter.printer?.or formatter.parser? = some tree →
      builder.appendFormatter formatter = .ok next →
      (next.tree handle).kept.requiresOffset =
        ((builder.tree handle).kept.requiresOffset || tree.kept.requiresOffset)) ∧
    (∀ (formatter : DateTimeFormatter) (tree : FormatTree) (value : LocalDateTime),
      formatter.printer? = some tree →
      ((∃ text, formatter.printLocal value = .ok text) ↔
        (∃ zone, formatter.zone? = some zone) ∨ ¬ tree.HasOffset) ∧
      (formatter.zone? = none →
        ((∃ error, formatter.printLocal value = .error error ∧ error.kind = .unsupported) ↔
          tree.HasOffset))) ∧
    ∀ (formatter : DateTimeFormatter) (value : LocalDateTime) (text : String),
      formatter.printLocal value = .ok text →
      ∃ tree, formatter.printer? = some tree ∧
        let pieces := tree.pieces (formatter.printContext value (formatter.localOffset? value))
        text.toList = pieces.flatMap Prod.snd ∧ pieces.map Prod.fst = tree.flatten.elements ∧
        (∀ style, Element.Contains (.composite tree.elements) (.offset style) ↔
          ∃ written, (.offset style, written) ∈ pieces) ∧
        ∀ style written, (.offset style, written) ∈ pieces →
          ∃ offset, formatter.localOffset? value = some offset ∧ style.Shows offset written := by
  refine ⟨?_, ?_, ?_, ?_⟩
  · intro tree
    rw [tree.requiresOffset_kept]
    exact ⟨rfl, tree.requiresOffset_iff⟩
  · intro builder next formatter tree handle given accepted
    exact DateTimeBuilder.requiresOffset_appendFormatter given accepted handle
  · intro formatter tree value hasPrinter
    exact ⟨exists_printLocal_iff hasPrinter value,
      fun noZone => printLocal_unsupported_iff hasPrinter noZone value⟩
  · intro formatter value text printed
    obtain ⟨tree, hasPrinter, isText, known⟩ := text_of_printLocal printed
    let context := formatter.printContext value (formatter.localOffset? value)
    have occurs := tree.contains_offset_iff_pieces context
    refine ⟨tree, hasPrinter, ?_, Element.map_pieces context _, occurs, ?_⟩
    · rw [isText]
      exact (Element.flatMap_pieces context (.composite tree.elements)).symm
    · intro style written member
      obtain ⟨offset, shown⟩ := known ⟨style, (occurs style).mpr ⟨written, member⟩⟩
      have own : written = style.print context :=
        Element.text_of_mem_pieces context (Element.not_isSeparator_offset style) _ member
      have inContext : context.offset? = some offset := shown
      rw [own, OffsetStyle.print, inContext]
      exact ⟨offset, shown, style.shows_render offset⟩

/-- A time whose offset is two formats deep, without a zone and in one that is behind UTC. -/
theorem printLocal_keeps_offsets_dayAndClock :
    let tree := FormatTree.dayAndClock
    let behind : Offset := ⟨-5415, by decide, by decide⟩
    let formatter : DateTimeFormatter := { printer? := some tree, parser? := none }
    let zoned := formatter.withZone (.fixed 1 behind)
    (∃ error, formatter.printLocal .unixEpoch = .error error ∧ error.kind = .unsupported) ∧
      zoned.printLocal .unixEpoch = .ok "01T00:00-01:30:15" ∧
      (.offset .extended, "-01:30:15".toList) ∈
        tree.pieces (zoned.printContext .unixEpoch (some behind)) ∧
      OffsetStyle.Shows .extended behind "-01:30:15".toList := by
  intro tree behind formatter zoned
  obtain ⟨flag, _, refused, written⟩ := printLocal_keeps_offsets
  have has : tree.HasOffset := (flag tree).2.mp rfl
  have printed : zoned.printLocal .unixEpoch = .ok "01T00:00-01:30:15" := by cbv
  have last : (tree.pieces (zoned.printContext .unixEpoch (some behind))).getLast? =
      some (.offset .extended, "-01:30:15".toList) := by cbv
  have member := List.mem_of_getLast? last
  obtain ⟨own, hasPrinter, _, _, _, shows⟩ := written zoned .unixEpoch _ printed
  cases hasPrinter
  obtain ⟨offset, known, shown⟩ := shows _ _ member
  cases known
  exact ⟨((refused formatter tree .unixEpoch rfl).2 rfl).mpr has, printed, member, shown⟩

end DateTimeFormatter

end ChronoText
