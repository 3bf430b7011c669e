import ChronoText.Formatter.DateTime
import ChronoText.Proofs.Parsing.Elements
import ChronoText.Proofs.Pattern.Grammar

/-! Texts written into patterns. Between quotes a closing quote is doubled and an escape character is
escaped, or any character is escaped; outside of quotes every character is. Either way the pattern
gives back the text it was made from, so a pattern can stand for any text there is. -/

set_option autoImplicit false

namespace ChronoText

namespace Pattern

/-- What stands for a character between quotes that close with `close`. -/
def enquoteCharacter (close c : Char) : List Char :=
  if c = close then [close, close]
  else if c = escapeCharacter then [escapeCharacter, escapeCharacter]
  else [c]

/-- What stands for a text between quotes that close with `close`. -/
def enquote (close : Char) (text : List Char) : List Char :=
  text.flatMap (enquoteCharacter close)

/-- What stands for a text between quotes where the characters that are marked are escaped. -/
def enquoteMarked (close : Char) (marked : List (Char × Bool)) : List Char :=
  marked.flatMap fun (c, escaped) =>
    if escaped then [escapeCharacter, c] else enquoteCharacter close c

/-- The text is what stands between quotes that close with `close` for another one, whichever
characters are escaped that need not be. -/
def IsEnquoted (close : Char) (text source : List Char) : Prop :=
  source = enquote close text ∨
    ∃ marked, marked.map (·.1) = text ∧ source = enquoteMarked close marked

/-- The pattern of a text in single quotes. -/
def quotedPattern (text : List Char) : String :=
  String.ofList ('\'' :: enquote '\'' text ++ ['\''])

/-- The pattern of a text with every character escaped. -/
def escapedPattern (text : List Char) : String :=
  String.ofList (text.flatMap fun c => [escapeCharacter, c])

end Pattern

namespace QuotedUnit

/-- The unit that stands for a character, escaped where it is marked. -/
def ofMarked (close : Char) : Char × Bool → QuotedUnit
  | (c, true) => .escaped c
  | (c, false) =>
    if c = close then .doubled else if c = escapeCharacter then .escaped c else .plain c

variable {close : Char}

theorem fitsIn_ofMarked (marked : Char × Bool) : (ofMarked close marked).FitsIn close := by
  obtain ⟨c, _ | _⟩ := marked
  · simp only [ofMarked]
    split
    · exact .doubled
    · next notClose =>
        split
        · exact .escaped
        · next notEscape => exact .plain notClose notEscape
  · exact .escaped

theorem character_ofMarked (marked : Char × Bool) :
    (ofMarked close marked).character close = marked.1 := by
  obtain ⟨c, _ | _⟩ := marked
  · simp only [ofMarked]
    split
    · next isClose => exact isClose.symm
    · split <;> rfl
  · rfl

theorem source_ofMarked (marked : Char × Bool) :
    (ofMarked close marked).source close =
      if marked.2 then [escapeCharacter, marked.1] else Pattern.enquoteCharacter close marked.1 := by
  obtain ⟨c, _ | _⟩ := marked
  · simp only [ofMarked, Pattern.enquoteCharacter, Bool.false_eq_true, if_false]
    split
    · rfl
    · split
      · next isEscape => rw [isEscape]; rfl
      · rfl
  · rfl

end QuotedUnit

namespace Pattern

variable {close : Char}

/-- The units that stand for a text, each marked character escaped. -/
def unitsOf (close : Char) (marked : List (Char × Bool)) : List QuotedUnit :=
  marked.map (QuotedUnit.ofMarked close)

theorem unitsOf_fit (marked : List (Char × Bool)) :
    ∀ unit ∈ unitsOf close marked, unit.FitsIn close := by
  intro unit member
  obtain ⟨own, _, rfl⟩ := List.mem_map.mp member
  exact QuotedUnit.fitsIn_ofMarked own

theorem characters_unitsOf (marked : List (Char × Bool)) :
    (unitsOf close marked).map (·.character close) = marked.map (·.1) := by
  rw [unitsOf, List.map_map]
  exact List.map_congr_left fun own _ => QuotedUnit.character_ofMarked own

theorem source_unitsOf (marked : List (Char × Bool)) :
    (unitsOf close marked).flatMap (·.source close) = enquoteMarked close marked := by
  rw [unitsOf, enquoteMarked, List.flatMap_map]
  exact List.flatMap_congr fun own _ => QuotedUnit.source_ofMarked own

theorem enquoteMarked_unmarked (text : List Char) :
    enquoteMarked close (text.map (·, false)) = enquote close text := by
  rw [enquoteMarked, enquote, List.flatMap_map]
  rfl

theorem closingQuote_ne_escape {opening : Char} (notEscape : opening ≠ escapeCharacter) :
    PatternCursor.closingQuote opening ≠ escapeCharacter := by
  unfold PatternCursor.closingQuote
  split
  all_goals first | decide | exact notEscape

/-- Behind an opening quote the text is read that was written between the quotes, up to the closing
quote. -/
theorem quoted_enquoteMarked {opening : Char} (notEscape : opening ≠ escapeCharacter)
    (marked : List (Char × Bool)) {rest : List Char}
    (stop : rest.head? ≠ some (PatternCursor.closingQuote opening)) (index : Nat) :
    PatternCursor.quoted
        ⟨index, enquoteMarked (PatternCursor.closingQuote opening) marked
          ++ PatternCursor.closingQuote opening :: rest⟩ opening =
      .closed (marked.map (·.1))
        ⟨index + (enquoteMarked (PatternCursor.closingQuote opening) marked).length + 1, rest⟩ := by
  have read := quotedFrom_complete (closingQuote_ne_escape notEscape) stop (unitsOf_fit marked) index
  rw [characters_unitsOf, source_unitsOf] at read
  exact read

/-! ## Patterns of one text -/

open PatternToken

theorem fixWidths_literals (literals : List Literal) :
    fixWidths (literals.map .literal) = literals.map .literal := by
  induction literals with
  | nil => rfl
  | cons literal rest ih =>
      rw [List.map_cons, fixWidths, ih]
      exact fun field next others same => Element.noConfusion same

/-- A text in quotes is one literal. -/
theorem elements_quotedPattern (culture : Culture) {text : List Char} (some : text ≠ []) :
    elements culture (quotedPattern text) =
      .ok ([(⟨.quoted, String.ofList text⟩ : Literal)].map .literal) := by
  let token : PatternToken := .quoted '\'' (unitsOf '\'' (text.map (·, false)))
  have source : spelling [token] = (quotedPattern text).toList := by
    simp [spelling, token, PatternToken.source, source_unitsOf, enquoteMarked_unmarked,
      quotedPattern]
  have munched : Munched [token] :=
    .cons (.quoted (.inl rfl) (unitsOf_fit _) (Option.some_ne_none _).symm) .nil
  have two : 2 ≤ (quotedPattern text).length := by
    simp [quotedPattern, ← String.length_toList]
  have units : unitsOf '\'' (text.map (·, false)) ≠ [] := by
    simpa [unitsOf] using some
  have image : images [token] = [(⟨.quoted, String.ofList text⟩ : Literal)].map .literal := by
    simp only [images, token, PatternToken.element?, if_neg units, characters_unitsOf]
    simp [Function.comp_def]
  rw [elements_of_two two, compile, ← source, compileFrom_spelling munched, image]
  exact congrArg Except.ok (fixWidths_literals _)

/-- A text of escaped characters is a literal for each of them. -/
theorem elements_escapedPattern (culture : Culture) {text : List Char} (some : text ≠ []) :
    elements culture (escapedPattern text) =
      .ok ((text.map fun c => (⟨.escaped, c.toString⟩ : Literal)).map .literal) := by
  have source : spelling (text.map .escaped) = (escapedPattern text).toList := by
    simp [spelling, escapedPattern, PatternToken.source, List.flatMap_map]
  have munched (characters : List Char) : Munched (characters.map .escaped) := by
    induction characters with
    | nil => exact .nil
    | cons c rest ih => exact .cons .escaped ih
  have image (characters : List Char) : images (characters.map .escaped) =
      (characters.map fun c => (⟨.escaped, c.toString⟩ : Literal)).map .literal := by
    induction characters with
    | nil => rfl
    | cons c rest ih =>
        rw [List.map_cons, images, ih]
        rfl
  have two : 2 ≤ (escapedPattern text).length := by
    obtain ⟨c, rest, rfl⟩ := List.exists_cons_of_ne_nil some
    simp [escapedPattern, ← String.length_toList]
  rw [elements_of_two two, compile, ← source, compileFrom_spelling (munched text), image]
  exact congrArg Except.ok (fixWidths_literals _)

end Pattern

/-! ## Formats of fixed text -/

theorem Element.printFrom_literals (context : PrintContext) (before : Nat) (literals : List Literal) :
    printFrom context before (literals.map .literal) = literals.flatMap (·.print context) := by
  induction literals generalizing before with
  | nil => rfl
  | cons literal rest ih =>
      rw [List.map_cons, printFrom_element _ _ (not_isSeparator_literal _), print, ih]
      rfl

theorem legible_literals {settings : ParseSettings} {context : PrintContext}
    (same : settings.culture = context.culture) (exact : settings.styles.innerBlank = false)
    (tail : List Char) (literals : List Literal) (before : Nat) (touched : Bool) :
    Legible settings context tail before touched (literals.map .literal) id := by
  induction literals generalizing before touched with
  | nil => exact .reached
  | cons literal rest ih =>
      exact .element (Element.not_isSeparator_literal literal)
        (literal.readsBack same exact _) (ih _ _)

namespace DateTimeFormatter

/-- The formatter prints the text whatever the date-time is, and takes it from the front of a text
with nothing read from it. -/
structure StandsFor (formatter : DateTimeFormatter) (text : List Char) : Prop where
  prints : ∀ value, formatter.printLocal value = .ok (String.ofList text)
  reads : ∀ rest, formatter.parseFrom (String.ofList (text ++ rest)) 0 =
    .ok (.advanced ⟨Text.utf8Length text, rest⟩, {})

theorem anyRequiresOffset_literals (literals : List Literal) :
    Element.anyRequiresOffset (literals.map .literal) = false := by
  induction literals with
  | nil => rfl
  | cons literal rest ih => rw [List.map_cons, Element.anyRequiresOffset, ih]; rfl

theorem ofPattern_standsFor (handle : Nat) {culture : Culture} {pattern : String}
    {literals : List Literal}
    (compiled : Pattern.elements culture pattern = .ok (literals.map .literal)) :
    ∃ formatter, ofPattern handle culture pattern = .ok formatter ∧
      formatter.StandsFor (literals.flatMap fun literal => (literal.resolve culture).toList) := by
  let tree : FormatTree := ⟨handle, literals.map .literal⟩
  let formatter : DateTimeFormatter := { printer? := some tree, parser? := some tree, culture }
  have print (context : PrintContext) (same : context.culture = culture) :
      Element.print context (.composite (literals.map .literal)) =
        literals.flatMap fun literal => (literal.resolve culture).toList := by
    rw [Element.print, Element.printFrom_literals, ← same]
    rfl
  refine ⟨formatter, ?made, ?prints, ?reads⟩
  case made =>
    rw [ofPattern, compiled]
    rfl
  case prints =>
    intro value
    have noOffset : tree.requiresOffset = false := anyRequiresOffset_literals literals
    rw [← print (formatter.printContext value none) rfl]
    simp only [printLocal, formatter, requirePrinter, zone?, noOffset, bind, Except.bind, pure,
      Except.pure, Bool.false_eq_true, if_false]
    rfl
  case reads =>
    intro rest
    have legible : Legible formatter.parseSettings ⟨culture, .period .zero⟩ rest 0 false
        (literals.map .literal) id :=
      legible_literals rfl rfl rest literals 0 false
    have readBack := legible.readsBack 0 {}
    rw [print _ rfl, Nat.zero_add] at readBack
    simp only [parseFrom, formatter, requireParser, Element.parseAt, Cursor.seek_zero, Cursor.start,
      bind, Except.bind, pure, Except.pure, String.toList_ofList]
    exact congrArg Except.ok readBack

end DateTimeFormatter

namespace Pattern

/-- Every text can be quoted. Between an opening quote, which is no escape character, and its closing
quote, the text is read that was written there with each closing quote doubled and each escape
character escaped, or with any characters escaped instead, and what follows is left if it does not
start with the closing quote. So every text but the empty one has patterns, one in quotes and one of
escaped characters, that stand for it. -/
theorem every_text_has_pattern :
    (∀ (opening : Char) (text source rest : List Char) (index : Nat), opening ≠ escapeCharacter →
      rest.head? ≠ some (PatternCursor.closingQuote opening) →
      IsEnquoted (PatternCursor.closingQuote opening) text source →
      let cursor : PatternCursor := ⟨index, source ++ PatternCursor.closingQuote opening :: rest⟩
      cursor.quotedText opening = .ok text ∧
        (cursor.quoted opening).behind = ⟨index + source.length + 1, rest⟩) ∧
    (∀ (handle : Nat) (culture : Culture) (text : List Char), text ≠ [] →
      ∀ pattern ∈ [quotedPattern text, escapedPattern text],
        ∃ formatter, DateTimeFormatter.ofPattern handle culture pattern = .ok formatter ∧
          formatter.StandsFor text) := by
  refine ⟨?quotes, ?patterns⟩
  case quotes =>
    intro opening text source rest index notEscape stop enquoted
    obtain ⟨marked, rfl, rfl⟩ : ∃ marked, marked.map (·.1) = text ∧
        source = enquoteMarked (PatternCursor.closingQuote opening) marked := by
      rcases enquoted with rfl | marked
      · exact ⟨text.map (·, false), by simp [Function.comp_def], (enquoteMarked_unmarked text).symm⟩
      · exact marked
    have read := quoted_enquoteMarked notEscape marked stop index
    simp only [PatternCursor.quotedText, read]
    exact ⟨rfl, rfl⟩
  case patterns =>
    intro handle culture text some pattern member
    simp only [List.mem_cons, List.not_mem_nil, or_false] at member
    rcases member with rfl | rfl
    · obtain ⟨formatter, made, stands⟩ :=
        DateTimeFormatter.ofPattern_standsFor handle (elements_quotedPattern culture some)
      simp only [List.flatMap_singleton, Literal.resolve, String.toList_ofList] at stands
      exact ⟨formatter, made, stands⟩
    · obtain ⟨formatter, made, stands⟩ :=
        DateTimeFormatter.ofPattern_standsFor handle (elements_escapedPattern culture some)
      have shown : (text.map fun c => (⟨.escaped, c.toString⟩ : Literal)).flatMap
          (fun literal => (literal.resolve culture).toList) = text := by
        simp [List.flatMap_map, Literal.resolve]
      exact ⟨formatter, made, shown ▸ stands⟩

theorem every_text_has_pattern_mixed :
    PatternCursor.quotedText ⟨1, "a]]\\\\]'".toList⟩ '[' = .ok "a]\\".toList ∧
    PatternCursor.quotedText ⟨1, "\\a]]\\\\]'".toList⟩ '[' = .ok "a]\\".toList ∧
    (∃ formatter, DateTimeFormatter.ofPattern 0 .invariant "'it''s \\\\'" = .ok formatter ∧
      formatter.StandsFor "it's \\".toList) ∧
    (∃ formatter, DateTimeFormatter.ofPattern 0 .invariant "\\i\\t\\'\\s\\ \\\\" = .ok formatter ∧
      formatter.StandsFor "it's \\".toList) := by
  have enquoted : IsEnquoted ']' "a]\\".toList "a]]\\\\".toList := .inl (by decide)
  have marked : IsEnquoted ']' "a]\\".toList "\\a]]\\\\".toList :=
    .inr ⟨[('a', true), (']', false), ('\\', false)], by decide, by decide⟩
  have patterns := every_text_has_pattern.2 0 .invariant "it's \\".toList (by decide)
  exact ⟨(every_text_has_pattern.1 '[' _ _ "'".toList 1 (by decide) (by decide) enquoted).1,
    (every_text_has_pattern.1 '[' _ _ "'".toList 1 (by decide) (by decide) marked).1,
    patterns _ (List.mem_cons_self), patterns _ (List.mem_cons_of_mem _ List.mem_cons_self)⟩

end Pattern

end ChronoText
