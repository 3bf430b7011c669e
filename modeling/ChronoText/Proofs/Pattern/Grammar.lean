import ChronoText.Formatter.DateTimeBuilder
import ChronoText.Proofs.Pattern.Compiled
import ChronoText.Proofs.Pattern.Tokens

/-! The language of patterns. A pattern compiles exactly if it is spelled by tokens each of which may
stand before the spelling of those behind it, and then to the elements of these tokens, with a fixed
width for the numbers right before digits. -/

set_option autoImplicit false

namespace ChronoText

namespace PatternToken

def spelling (tokens : List PatternToken) : List Char :=
  tokens.flatMap source

/-- Each token may stand before the spelling of the tokens behind it. -/
inductive Munched : List PatternToken → Prop where
  | nil : Munched []
  | cons {token tokens} :
      token.Fits (spelling tokens) → Munched tokens → Munched (token :: tokens)

/-- The elements the tokens stand for; an empty quoted run stands for none. -/
def images : List PatternToken → List Element
  | [] => []
  | token :: tokens => (token.element? (spelling tokens)).toList ++ images tokens

@[simp] theorem spelling_cons (token : PatternToken) (tokens : List PatternToken) :
    spelling (token :: tokens) = token.source ++ spelling tokens := rfl

end PatternToken

namespace Pattern

open PatternToken

theorem compileFrom_of_token {c : Char} {index : Nat} {rest : List Char} {next : PatternCursor}
    {element? : Option Element} (read : token c index ⟨index + 1, rest⟩ = .ok (element?, next)) :
    compileFrom index (c :: rest) =
      (element?.toList ++ ·) <$> compileFrom next.index next.rest := by
  rw [compileFrom]
  split
  · next failure refused =>
      rw [read] at refused
      cases refused
  · next other? other found =>
      rw [read] at found
      cases found
      rfl

theorem compileFrom_spelling {tokens : List PatternToken} (munched : Munched tokens)
    (index : Nat) : compileFrom index (spelling tokens) = .ok (images tokens) := by
  induction munched generalizing index with
  | nil => rw [spelling, List.flatMap_nil, compileFrom]; rfl
  | @cons token tokens fits _ ih =>
      obtain ⟨c, rest, source⟩ := fits.source_eq_cons
      have spelled : token.source ++ spelling tokens = c :: (rest ++ spelling tokens) := by
        rw [source, List.cons_append]
      rw [spelling_cons, spelled, compileFrom_of_token (token_complete fits spelled index), ih]
      rfl

theorem exists_munched_of_compileFrom {index : Nat} {pattern : List Char} {result : List Element}
    (compiled : compileFrom index pattern = .ok result) :
    ∃ tokens, Munched tokens ∧ spelling tokens = pattern := by
  fun_induction compileFrom index pattern generalizing result with
  | case1 => exact ⟨[], .nil, rfl⟩
  | case2 => cases compiled
  | case3 index c rest element? next read shorter ih =>
      cases later : compileFrom next.index next.rest with
      | error failure =>
          rw [later] at compiled
          cases compiled
      | ok elements =>
          obtain ⟨tokens, munched, spelled⟩ := ih later
          obtain ⟨token, fits, source⟩ := token_sound read
          rw [← spelled] at fits source
          exact ⟨token :: tokens, .cons fits munched, source.symm⟩

theorem compileFrom_refuses {index : Nat} {pattern : List Char} {failure : Failure}
    (refused : compileFrom index pattern = .error failure) :
    failure.RefusesUpTo (index + pattern.length) := by
  fun_induction compileFrom index pattern with
  | case1 => cases refused
  | case2 index c rest cause read =>
      cases refused
      exact token_error read
  | case3 index c rest element? next read shorter ih =>
      cases later : compileFrom next.index next.rest with
      | ok elements =>
          rw [later] at refused
          cases refused
      | error cause =>
          rw [later] at refused
          cases refused
          obtain ⟨token, fits, source⟩ := token_sound read
          have counted : next.index = index + token.source.length :=
            congrArg (·.2.index) (Except.ok.inj (read.symm.trans (token_complete fits source.symm index)))
          have length : rest.length + 1 = token.source.length + next.rest.length := by
            rw [← List.length_append, ← source, List.length_cons]
          obtain ⟨⟨ofPattern, position, at_, within⟩, complete⟩ := ih later
          refine ⟨⟨ofPattern, position, at_, ?_⟩, complete⟩
          rw [List.length_cons, length]
          omega

theorem compileFrom_error {index : Nat} {pattern : List Char} {failure : Failure}
    (refused : compileFrom index pattern = .error failure) :
    failure.IsOfPatternUpTo (index + pattern.length) :=
  (compileFrom_refuses refused).place

/-! ## Widths -/

theorem fixedWidth_of_element? {letter : Char} {count : Nat} {field : NumberField}
    (found : PatternLetter.element? letter count = some (.number field)) :
    field.fixedWidth = false := by
  unfold PatternLetter.element? PatternLetter.year PatternLetter.number at found
  repeat' split at found
  all_goals
    cases found
  all_goals rfl

theorem fixedWidth_of_image {token : PatternToken} {behind : List Char} {field : NumberField}
    (found : token.element? behind = some (.number field)) : field.fixedWidth = false := by
  cases token with
  | percent letter => exact fixedWidth_of_element? found
  | run letter count => exact fixedWidth_of_element? found
  | escaped c => cases found
  | quoted quote units =>
      simp only [PatternToken.element?] at found
      split at found <;> cases found
  | single c =>
      simp only [PatternToken.element?] at found
      repeat' split at found
      all_goals cases found

theorem fixedWidth_of_mem_images {tokens : List PatternToken} {field : NumberField}
    (member : Element.number field ∈ images tokens) : field.fixedWidth = false := by
  induction tokens with
  | nil => cases member
  | cons token tokens ih =>
      rcases List.mem_append.mp member with own | later
      · exact fixedWidth_of_image (Option.mem_toList.mp own)
      · exact ih later

theorem elements_of_two {culture : Culture} {pattern : String} (two : 2 ≤ pattern.length) :
    Pattern.elements culture pattern = compile pattern.toList := by
  rw [← String.length_toList] at two
  unfold Pattern.elements
  split
  · next none => rw [none] at two; cases two
  · next c one => rw [one] at two; cases two with | step more => cases more
  · rfl

end Pattern

theorem FormatError.kind_ofFailure_of_pattern {failure : Failure}
    (ofPattern : failure.kind.isPatternFailure = true) :
    (FormatError.ofFailure failure).kind = .format := by
  have notEmpty : failure.kind ≠ .emptyArgument := by
    intro empty
    rw [empty] at ofPattern
    cases ofPattern
  rw [FormatError.ofFailure, if_neg notEmpty, if_pos ofPattern]

namespace DateTimeBuilder

open PatternToken

/-- The culture has no say in patterns that are not standard ones. -/
theorem appendPattern_of_two (builder : DateTimeBuilder) (culture : Culture) {pattern : String}
    (two : 2 ≤ pattern.length) :
    builder.appendPattern culture pattern =
      (fun elements => ⟨builder.elements ++ Pattern.fixWidths elements⟩) <$>
        failureAsError (Pattern.compileFrom 0 pattern.toList) := by
  rw [appendPattern, Pattern.elements_of_two two, Pattern.compile]
  cases Pattern.compileFrom 0 pattern.toList <;> rfl

theorem appendPattern_of_munched (builder : DateTimeBuilder) (culture : Culture)
    {pattern : String} (two : 2 ≤ pattern.length) {tokens : List PatternToken}
    (munched : Munched tokens) (spelled : spelling tokens = pattern.toList) :
    builder.appendPattern culture pattern =
      .ok ⟨builder.elements ++ Pattern.fixWidths (images tokens)⟩ := by
  rw [appendPattern_of_two builder culture two, ← spelled, Pattern.compileFrom_spelling munched]
  rfl

/-- A pattern of two characters or more is appended exactly if tokens spell it that may each stand
where they do. What is appended are the elements of any such tokens, of which a number has a fixed
width exactly if a numeric element follows, that is a number, a fraction or a year of two digits. A
pattern that is refused is refused with a failure that points into it. -/
theorem appendPattern_ok_iff_munched (builder : DateTimeBuilder) (culture : Culture)
    {pattern : String} (two : 2 ≤ pattern.length) :
    ((∃ extended, builder.appendPattern culture pattern = .ok extended) ↔
      ∃ tokens, Munched tokens ∧ spelling tokens = pattern.toList) ∧
    (∀ tokens, Munched tokens → spelling tokens = pattern.toList →
      ∃ appended, builder.appendPattern culture pattern = .ok ⟨builder.elements ++ appended⟩ ∧
        (∀ i : Nat, appended[i]? = (images tokens)[i]?.map
          (Element.withFixedWidth ((images tokens)[i + 1]?.any Element.isNumeric))) ∧
        ∀ (i : Nat) (field : NumberField), appended[i]? = some (.number field) →
          (field.fixedWidth = true ↔
            (∃ number, (images tokens)[i + 1]? = some (.number number)) ∨
              (∃ fraction, (images tokens)[i + 1]? = some (.fraction fraction)) ∨
                ∃ year, (images tokens)[i + 1]? = some (.twoDigitYear year))) ∧
    (∀ error, builder.appendPattern culture pattern = .error error →
      error.kind = .format ∧
        ∃ failure, error.failure? = some failure ∧ failure.IsOfPatternUpTo pattern.length) := by
  refine ⟨⟨?_, ?_⟩, ?_, ?_⟩
  · rintro ⟨extended, compiled⟩
    rw [appendPattern_of_two builder culture two] at compiled
    cases tokens : Pattern.compileFrom 0 pattern.toList with
    | error failure =>
        rw [tokens] at compiled
        cases compiled
    | ok elements => exact Pattern.exists_munched_of_compileFrom tokens
  · rintro ⟨tokens, munched, spelled⟩
    exact ⟨_, appendPattern_of_munched builder culture two munched spelled⟩
  · intro tokens munched spelled
    -- Before the pass over the widths no number has a fixed one.
    have free : ∀ field, Element.number field ∈ images tokens → field.fixedWidth = false :=
      fun field member => Pattern.fixedWidth_of_mem_images member
    refine ⟨_, appendPattern_of_munched builder culture two munched spelled,
      Pattern.getElem?_fixWidths free, ?_⟩
    intro i field found
    exact Pattern.fixedWidth_fixWidths free found
  · intro error refused
    rw [appendPattern_of_two builder culture two] at refused
    cases tokens : Pattern.compileFrom 0 pattern.toList with
    | ok elements =>
        rw [tokens] at refused
        cases refused
    | error failure =>
        rw [tokens] at refused
        cases refused
        have place := Pattern.compileFrom_error tokens
        rw [Nat.zero_add, String.length_toList] at place
        exact ⟨FormatError.kind_ofFailure_of_pattern place.1, failure, rfl, place⟩

/-- An hour and a minute that stand side by side, a quoted run with a doubled quote and an escape, a
decimal separator, a fraction and an empty run. -/
def quotedTokens : List PatternToken :=
  [.run 'H' 2, .run 'm' 2, .quoted '\'' [.plain 'i', .plain 't', .doubled, .plain 's', .escaped 'x'],
    .single '.', .run 'S' 3, .percent 'd', .single ' ', .quoted '"' []]

theorem appendPattern_ok_iff_munched_quoted :
    2 ≤ "HHmm'it''s\\x'.SSS%d \"\"".length ∧
    Munched quotedTokens ∧ spelling quotedTokens = "HHmm'it''s\\x'.SSS%d \"\"".toList ∧
    ∃ appended,
      appendPattern ⟨[.offset .basic]⟩ .invariant "HHmm'it''s\\x'.SSS%d \"\"" =
        .ok ⟨[.offset .basic] ++ appended⟩ ∧
      (∀ i : Nat, appended[i]? = (images quotedTokens)[i]?.map
        (Element.withFixedWidth ((images quotedTokens)[i + 1]?.any Element.isNumeric))) ∧
      ∀ (i : Nat) (field : NumberField), appended[i]? = some (.number field) →
        (field.fixedWidth = true ↔
          (∃ number, (images quotedTokens)[i + 1]? = some (.number number)) ∨
            (∃ fraction, (images quotedTokens)[i + 1]? = some (.fraction fraction)) ∨
              ∃ year, (images quotedTokens)[i + 1]? = some (.twoDigitYear year)) := by
  have two : 2 ≤ "HHmm'it''s\\x'.SSS%d \"\"".length := by decide
  have munched : Munched quotedTokens := by
    have fitUnits : ∀ unit ∈ [QuotedUnit.plain 'i', .plain 't', .doubled, .plain 's', .escaped 'x'],
        unit.FitsIn '\'' := by
      simp only [List.forall_mem_cons]
      exact ⟨.plain (by decide) (by decide), .plain (by decide) (by decide), .doubled,
        .plain (by decide) (by decide), .escaped, List.forall_mem_nil _⟩
    exact .cons (.run (by decide) (by decide) (by decide) (by decide))
      (.cons (.run (by decide) (by decide) (by decide) (by decide))
      (.cons (.quoted (.inl rfl) fitUnits (by decide))
      (.cons (.single (by decide) (by decide) (by decide) (by decide) (by decide))
      (.cons (.run (by decide) (by decide) (by decide) (by decide))
      (.cons (.percent (by decide))
      (.cons (.single (by decide) (by decide) (by decide) (by decide) (by decide))
      (.cons (.quoted (.inr rfl) (List.forall_mem_nil _) (by decide)) .nil)))))))
  have spelled : spelling quotedTokens = "HHmm'it''s\\x'.SSS%d \"\"".toList := by decide
  exact ⟨two, munched, spelled,
    (appendPattern_ok_iff_munched ⟨[.offset .basic]⟩ .invariant two).2.1 quotedTokens munched
      spelled⟩

end DateTimeBuilder

end ChronoText
