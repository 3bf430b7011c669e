import ChronoText.Proofs.Parsing.Units

/-! Sequences of units and separators. What such a sequence prints starts with the number of the
first unit that is printed, or with a separator that is printed in front of it, so that the scan for
an affix finds out whether that unit is the one it looks for. -/

set_option autoImplicit false

namespace ChronoText

/-- The affixes of two units cannot be taken for each other. -/
def Affix.divergesFromAffix (affix other : Affix) : Bool :=
  other.forms.all fun form => affix.divergesFrom form.toList

/-- The element is a unit or a separator that is not printed unless a unit follows. -/
inductive Element.IsPeriodPart : Element → Prop where
  | unit {unit present affix optionalMillis} :
      IsPeriodPart (.number (.ofUnit unit present affix optionalMillis))
  | separator {between} : between.mode ≠ .ifFieldsBefore → IsPeriodPart (.separator between)

/-- The scan for the affix stops without a match in what the elements print, where `before` fields
were printed since the last separator: at another unit, or at a separator in front of all units
that are left. -/
inductive Affix.StopsIn (affix : Affix) : Nat → List Element → Prop where
  | nil {before} : StopsIn affix before []
  | unit {before unit present other optionalMillis rest} :
      other.startsNoNumber = true → affix.divergesFromAffix other = true →
      StopsIn affix before rest →
      StopsIn affix before (.number (.ofUnit unit present other optionalMillis) :: rest)
  | unprinted {between rest} :
      between.mode = .always → StopsIn affix 0 rest →
      StopsIn affix 0 (.separator between :: rest)
  | separator {before between c text rest} :
      between.mode = .ifFieldsAfter → between.text.toList = c :: text →
      isNumberCharacter c = false → affix.divergesFrom (c :: text) = true →
      (∀ element ∈ rest, element.IsPeriodPart) →
      StopsIn affix before (.separator between :: rest)

namespace Element

variable {period : Period}

theorem printFrom_eq_nil_iff {elements : List Element}
    (parts : ∀ element ∈ elements, element.IsPeriodPart) (before : Nat) :
    printFrom period.printContext before elements = [] ↔
      fieldCountOf period.printContext elements = 0 := by
  induction elements generalizing before with
  | nil => simp only [printFrom, fieldCountOf]
  | cons element rest ih =>
      obtain ⟨own, others⟩ := List.forall_mem_cons.mp parts
      cases own with
      | @unit unit present affix optionalMillis =>
          rw [printFrom_element _ _ (not_isSeparator_number _), print_ofUnit,
            List.append_eq_nil_iff, fieldCountOf, fieldCount, NumberField.fieldCount, ih others]
          cases (NumberField.ofUnit unit present affix optionalMillis).printed?
            period.printContext with
          | none =>
              simp only [Option.isSome_none, Bool.false_eq_true, if_false, true_and, Nat.zero_add]
          | some printed =>
              have some : printed.text ++ (affix.textFor printed.affixNumber).toList ≠ [] :=
                List.append_ne_nil_of_left_ne_nil printed.text_ne_nil _
              simp only [some, false_and, Option.isSome_some, if_true, false_iff]
              omega
      | @separator between mode =>
          rw [printFrom_separator, List.append_eq_nil_iff, fieldCountOf, fieldCount, Nat.zero_add,
            ih others]
          refine ⟨And.right, fun nothing => ⟨?_, nothing⟩⟩
          rw [nothing, Separator.textBetween?]
          split
          · rw [if_pos (.inr rfl)]
            rfl
          · next same => exact absurd same mode
          · rfl

end Element

namespace Separator

variable {between : Separator} {period : Period}

theorem skip?_nil (between : Separator) (position : Nat) :
    between.skip? ⟨position, []⟩ = none := by
  rw [skip?, List.findSome?_eq_none_iff]
  intro form member
  have given : form ≠ "" := by
    simpa using (List.mem_filter.mp member).2
  apply Cursor.skip?_eq_none
  cases shape : form.toList with
  | nil => exact absurd (String.toList_eq_nil_iff.mp shape) given
  | cons c rest => rfl

theorem skip?_same {text : String} (given : text ≠ "") (mode : SeparatorMode)
    (cursor : Cursor) : skip? ⟨text, text, mode⟩ cursor = cursor.skip? text := by
  have forms : forms ⟨text, text, mode⟩ = [text, text] := by
    simp [Separator.forms, given]
  rw [skip?, forms]
  cases found : cursor.skip? text with
  | none => rw [List.findSome?_cons, found, List.findSome?_cons, found, List.findSome?_nil]
  | some next => rw [List.findSome?_cons, found]

/-- The texts of the separator are found where they stand. -/
def FindsTexts (between : Separator) : Prop :=
  ∀ text, text = between.text ∨ text = between.finalText → ∀ position rest,
    between.skip? ⟨position, text.toList ++ rest⟩ =
      some ⟨position + Text.utf8Length text.toList, rest⟩

theorem findsTexts_of_same {text : String} (given : text ≠ "") (mode : SeparatorMode) :
    FindsTexts ⟨text, text, mode⟩ := by
  rintro _ (rfl | rfl) position rest <;> rw [skip?_same given, Cursor.skip?_append]

theorem textBetween?_text {before after : Nat} {text : String}
    (printed : between.textBetween? before after = some text) :
    text = between.text ∨ text = between.finalText := by
  unfold textBetween? at printed
  split at printed
  · split at printed
    · cases printed
    · split at printed
      · cases printed
        exact .inr rfl
      · cases printed
        exact .inl rfl
  · split at printed
    · cases printed
    · cases printed
      exact .inl rfl
  · split at printed
    · cases printed
    · cases printed
      exact .inl rfl

/-- Where a separator is printed, units stand behind it, and it is looked for there. -/
theorem wanted_of_textBetween?_eq_some {before after : Nat} {text : String}
    (printed : between.textBetween? before after = some text) (mode : between.mode ≠ .ifFieldsBefore) :
    after ≠ 0 ∧ (0 < before ∨ between.mode = .ifFieldsAfter) := by
  unfold textBetween? at printed
  split at printed
  · split at printed
    · cases printed
    · next both =>
        obtain ⟨fields, more⟩ := not_or.mp both
        exact ⟨more, .inl (Nat.pos_of_ne_zero fields)⟩
  · next same => exact absurd same mode
  · next same =>
      split at printed
      · cases printed
      · next more => exact ⟨more, .inr same⟩

/-- Where a separator is not printed, no unit stands behind it, or none before it and that is asked
for. -/
theorem unwanted_of_textBetween?_eq_none {before after : Nat}
    (unprinted : between.textBetween? before after = none) (mode : between.mode ≠ .ifFieldsBefore) :
    after = 0 ∨ (before = 0 ∧ between.mode = .always) := by
  unfold textBetween? at unprinted
  split at unprinted
  · next same =>
      split at unprinted
      · next missing => exact missing.symm.imp_right fun first => ⟨first, same⟩
      · split at unprinted <;> cases unprinted
  · next same => exact absurd same mode
  · split at unprinted
    · next last => exact .inl last
    · cases unprinted

/-- A separator in front of units is found exactly where it was printed. Whether units were printed
since the last separator, which the mode `always` goes by, has to show in the text. -/
theorem readsBack_between (mode : between.mode ≠ .ifFieldsBefore) (found : between.FindsTexts)
    {before : Nat} {touched : Bool} (aligned : between.mode = .always → touched = decide (0 < before))
    {behind : List Element} (parts : ∀ element ∈ behind, element.IsPeriodPart) :
    between.ReadsBack touched
      (between.textBetween? before (Element.fieldCountOf period.printContext behind))
      (Element.printFrom period.printContext 0 behind) [] := by
  have empty : Element.printFrom period.printContext 0 behind = [] ↔ _ :=
    Element.printFrom_eq_nil_iff parts 0
  cases printed : between.textBetween? before (Element.fieldCountOf period.printContext behind) with
  | some text =>
      have own := textBetween?_text printed
      obtain ⟨more, fields | free⟩ := wanted_of_textBetween?_eq_some printed mode
      · refine ⟨?_, mt empty.mp more, fun position => found text own position _⟩
        cases between_mode : between.mode with
        | always => exact .inl ((aligned between_mode).trans (decide_eq_true fields))
        | ifFieldsBefore => exact absurd between_mode mode
        | ifFieldsAfter => exact .inr rfl
      · exact ⟨.inr (free ▸ rfl), mt empty.mp more, fun position => found text own position _⟩
  | none =>
      rcases unwanted_of_textBetween?_eq_none printed mode with last | ⟨first, always⟩
      · rw [empty.mpr last]
        exact ⟨.inl rfl, .inr fun position => between.skip?_nil position⟩
      · have untouched : touched = false := by
          rw [aligned always, first]
          rfl
        exact ⟨.inr (always ▸ rfl), .inl ⟨untouched, always ▸ rfl⟩⟩

end Separator

theorem Element.mem_printFrom {context : PrintContext} {elements : List Element} {before : Nat}
    {c : Char} (member : c ∈ printFrom context before elements) :
    ∃ element ∈ elements, c ∈ print context element ∨
      ∃ between, element = .separator between ∧
        (c ∈ between.text.toList ∨ c ∈ between.finalText.toList) := by
  induction elements generalizing before with
  | nil =>
      rw [printFrom] at member
      cases member
  | cons first rest ih =>
      have later {before : Nat} (member : c ∈ printFrom context before rest) :
          ∃ element ∈ first :: rest, c ∈ print context element ∨
            ∃ between, element = .separator between ∧
              (c ∈ between.text.toList ∨ c ∈ between.finalText.toList) := by
        obtain ⟨element, among, own⟩ := ih member
        exact ⟨element, List.mem_cons_of_mem _ among, own⟩
      by_cases separator : IsSeparator first
      · obtain ⟨between, rfl⟩ := separator
        rw [printFrom_separator] at member
        rcases List.mem_append.mp member with own | behind
        · refine ⟨.separator between, List.mem_cons_self, .inr ⟨between, rfl, ?_⟩⟩
          cases printed : between.textBetween? before (fieldCountOf context rest) with
          | none =>
              rw [printed] at own
              cases own
          | some text =>
              rw [printed, Option.getD_some] at own
              rcases Separator.textBetween?_text printed with rfl | rfl
              · exact .inl own
              · exact .inr own
        · exact later behind
      · rw [printFrom_element context before separator] at member
        rcases List.mem_append.mp member with own | behind
        · exact ⟨first, List.mem_cons_self, .inl own⟩
        · exact later behind

theorem Affix.StopsIn.distance?_printFrom {affix : Affix} {period : Period} {before : Nat}
    {elements : List Element} (stops : affix.StopsIn before elements)
    (clear : affix.startsNoNumber = true) :
    affix.distance? (Element.printFrom period.printContext before elements) = none := by
  induction stops with
  | nil =>
      rw [Element.printFrom]
      rfl
  | @unit before unit present other optionalMillis rest noNumber different _ ih =>
      rw [Element.printFrom_element _ _ (Element.not_isSeparator_number _), Element.print_ofUnit,
        Element.fieldCount, NumberField.fieldCount]
      cases (NumberField.ofUnit unit present other optionalMillis).printed? period.printContext with
      | none => exact ih
      | some printed =>
          obtain ⟨c, text, shape, stop⟩ := textFor_shape noNumber printed.affixNumber
          have diverges := List.all_eq_true.mp different _
            (other.textFor_mem_forms printed.affixNumber)
          simp only [shape] at diverges ⊢
          rw [List.append_assoc]
          exact distance?_other clear _ printed.isNumberCharacter_text stop diverges _
  | @unprinted between rest mode _ ih =>
      rw [Element.printFrom_separator, Separator.textBetween?, mode]
      exact ih
  | @separator before between c text rest mode shape stop different parts =>
      rw [Element.printFrom_separator, Separator.textBetween?, mode]
      by_cases nothing : Element.fieldCountOf period.printContext rest = 0
      · rw [nothing, (Element.printFrom_eq_nil_iff parts 0).mpr nothing]
        rfl
      · simp only [nothing, if_false, Option.getD_some, shape]
        exact distance?_other clear [] (List.forall_mem_nil _) stop different _

end ChronoText
