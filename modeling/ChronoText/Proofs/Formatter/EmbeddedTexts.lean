import ChronoText.Formatter.DateTime
import ChronoText.Proofs.Parsing.DisguisedElements

/-! Texts inside texts. Reading from a place of a text never looks at what stands before that place:
it goes as if what follows were a text of its own, only further on. So blank characters that are
passed at the start of a text change nothing but the places of failures. -/

set_option autoImplicit false

namespace ChronoText

/-- The disguise of a text that stands behind another one. -/
def Disguise.behind (culture : Culture) (bytes : Nat) : Disguise culture where
  shift := bytes
  replace := id
  toLower_replace _ := rfl
  digitValue?_replace _ := rfl
  decimal_replace _ _ _ := .rfl

theorem Disguise.cursor_behind (culture : Culture) (bytes position : Nat) (rest : List Char) :
    (Disguise.behind culture bytes).cursor ⟨position, rest⟩ = ⟨position + bytes, rest⟩ :=
  congrArg (Cursor.mk _) (List.map_id rest)

theorem Element.parse_behind (settings : ParseSettings) (bytes position : Nat) (rest : List Char)
    (element : Element) :
    Element.parse settings ⟨position + bytes, rest⟩ {} element =
      (Disguise.behind settings.culture bytes).ending
        (Element.parse settings ⟨position, rest⟩ {} element) := by
  rw [← Disguise.cursor_behind settings.culture]
  exact (Disguise.behind settings.culture bytes).parse_cursor ⟨position, rest⟩ {} element

/-! ## Whole texts -/

theorem startOf_blank_append {styles : ParseStyles} (allowed : styles.leadingBlank = true)
    {blank text : List Char} (blanks : ∀ c ∈ blank, Text.isBlank c = true)
    (start : ∃ c ∈ text.head?, Text.isBlank c = false) :
    startOf styles (blank ++ text) = ⟨Text.utf8Length blank, text⟩ := by
  obtain ⟨c, first, other⟩ := start
  obtain ⟨rest, rfl⟩ := List.head?_eq_some_iff.mp first
  have run : (blank ++ c :: rest).takeWhile Text.isBlank = blank := by
    rw [List.takeWhile_append_of_pos blanks, List.takeWhile_cons_of_neg (by simp [other]),
      List.append_nil]
  have ahead := Cursor.advance_append 0 blank (c :: rest)
  rw [Nat.zero_add] at ahead
  simp only [startOf, allowed, if_true, run, Cursor.start, ahead]

/-- Blank characters before a text move the places of its failures on, and that is all. -/
theorem parseWhole_blank_append (elements : List Element) (settings : ParseSettings)
    (allowed : settings.styles.leadingBlank = true) {blank text : List Char}
    (blanks : ∀ c ∈ blank, Text.isBlank c = true)
    (start : ∃ c ∈ text.head?, Text.isBlank c = false) (wanted : String) :
    parseWhole elements settings (blank ++ text) wanted =
      (parseWhole elements settings text wanted).mapError
        (·.movedOn (Text.utf8Length blank)) := by
  have some : text ≠ [] := by
    rintro rfl
    obtain ⟨_, ⟨⟩, _⟩ := start
  have both : blank ++ text ≠ [] := List.append_ne_nil_of_right_ne_nil _ some
  have alone := startOf_blank_append allowed (List.forall_mem_nil _) start
  have behind := Element.parse_behind settings (Text.utf8Length blank) 0 text (.composite elements)
  rw [Nat.zero_add] at behind
  rw [List.nil_append, Text.utf8Length_nil] at alone
  simp only [parseWhole, if_neg some, if_neg both, startOf_blank_append allowed blanks start, alone,
    behind]
  cases read : Element.parse settings ⟨0, text⟩ {} (.composite elements) with
  | mk outcome state =>
      obtain ⟨bucket, failure?⟩ := state
      cases outcome with
      | failedAt position => cases failure? <;> rfl
      | advanced next =>
          have rest : ((Disguise.behind settings.culture (Text.utf8Length blank)).cursor next).rest =
              next.rest := List.map_id next.rest
          simp only [Disguise.ending, Disguise.outcome, rest]
          generalize (if settings.styles.trailingBlank then Text.dropBlank next.rest else next.rest) =
            left
          split <;> rfl

/-! ## Values -/

/-- What is made of the components that were read has no place in the text, and so neither has the
reason why it cannot be made. -/
def Placeless {Value : Type} (made : Except Failure Value) : Prop :=
  Ends (fun _ => True) (fun failure => failure.position? = none) made

namespace Bucket

theorem checkedYear_placeless (field : DateTimeField) (year : Int) :
    Placeless (checkedYear field year) :=
  Ends.ite (fun _ => trivial) fun _ => rfl

theorem dayOfCalendarDate_placeless (bucket : Bucket) : Placeless bucket.dayOfCalendarDate := by
  unfold dayOfCalendarDate
  refine Ends.bind (checkedYear_placeless _ _) fun year _ => ?_
  exact Ends.ite (fun _ => rfl) fun _ => trivial

theorem dayOfOrdinalDate_placeless (bucket : Bucket) (dayOfYear : Int) :
    Placeless (bucket.dayOfOrdinalDate dayOfYear) := by
  unfold dayOfOrdinalDate
  refine Ends.bind (checkedYear_placeless _ _) fun year _ => ?_
  exact Ends.ite (fun _ => rfl) fun _ => trivial

theorem dayOfWeekDate_placeless (bucket : Bucket) : Placeless bucket.dayOfWeekDate := by
  unfold dayOfWeekDate
  split
  all_goals
    refine Ends.bind (checkedYear_placeless _ _) fun weekYear _ => ?_
    exact Ends.ite (fun _ => rfl) fun _ => trivial

theorem epochDay_placeless (bucket : Bucket) : Placeless bucket.epochDay := by
  unfold epochDay
  refine Ends.ite (fun _ => bucket.dayOfCalendarDate_placeless) fun _ => ?_
  refine Ends.ite (fun _ => bucket.dayOfWeekDate_placeless) fun _ => ?_
  split
  · exact bucket.dayOfOrdinalDate_placeless _
  · exact bucket.dayOfCalendarDate_placeless

theorem toLocal_placeless (bucket : Bucket) : Placeless bucket.toLocal := by
  unfold toLocal
  refine Ends.bind bucket.epochDay_placeless fun day _ => ?_
  extract_lets date
  have dated : Placeless (date ()) := by
    unfold date
    split
    · trivial
    · rfl
  split
  · exact Ends.ite (fun _ => rfl) fun _ => dated
  · exact dated

end Bucket

theorem DateTimeFormatter.valueOf_placeless (formatter : DateTimeFormatter) (bucket : Bucket) :
    Placeless (formatter.valueOf bucket) := by
  unfold valueOf
  refine Ends.bind bucket.toLocal_placeless fun value _ => ?_
  split
  · trivial
  · split
    · trivial
    · rfl
  · trivial
  · trivial

theorem Failure.movedOn_of_placeless {failure : Failure} (placeless : failure.position? = none)
    (bytes : Nat) : failure.movedOn bytes = failure := by
  obtain ⟨kind, params, argument?, position?⟩ := failure
  cases placeless
  rfl

theorem DateTimeFormatter.valueOf_movedOn (formatter : DateTimeFormatter) (bucket : Bucket)
    (bytes : Nat) :
    (formatter.valueOf bucket).mapError (·.movedOn bytes) = formatter.valueOf bucket := by
  have placeless := formatter.valueOf_placeless bucket
  cases made : formatter.valueOf bucket with
  | ok value => rfl
  | error failure =>
      rw [made] at placeless
      exact congrArg Except.error (Failure.movedOn_of_placeless placeless bytes)

namespace Element

/-- Parsing never looks behind its start. Reading from a place behind some text is reading what
follows as a text of its own, with that place added to the position that is returned and to the
position of the failure. So a date-time format that allows blank characters at the start reads a text
alike with and without them, with the positions of its failures moved on. -/
theorem never_looks_behind (leading : List Char) :
    (∀ (settings : ParseSettings) (rest : List Char) (element : Element),
      let embedded := parseAt settings (leading ++ rest) (Text.utf8Length leading) element
      let alone := parseAt settings rest 0 element
      embedded.1.position = alone.1.position.movedOn (Text.utf8Length leading) ∧
        embedded.2 = alone.2.movedOn (Text.utf8Length leading)) ∧
    ∀ (formatter : DateTimeFormatter) (text : String), formatter.styles.leadingBlank = true →
      (∀ c ∈ leading, Text.isBlank c = true) → (∃ c ∈ text.toList.head?, Text.isBlank c = false) →
      formatter.tryParse (String.ofList leading ++ text) =
        (·.mapError (·.movedOn (Text.utf8Length leading))) <$> formatter.tryParse text := by
  refine ⟨fun settings rest element => ?_, fun formatter text allowed blanks start => ?_⟩
  · have behind := parse_behind settings (Text.utf8Length leading) 0 rest element
    rw [Nat.zero_add] at behind
    have start : parseAt settings rest 0 element = parse settings ⟨0, rest⟩ {} element := by
      rw [parseAt, Cursor.seek_zero]
      rfl
    rw [parseAt_append, behind, start]
    exact ⟨Disguise.position_outcome _ _, rfl⟩
  · unfold DateTimeFormatter.tryParse
    rw [String.toList_append, String.toList_ofList]
    cases requireParser formatter.parser? with
    | error misuse => rfl
    | ok tree =>
        refine congrArg Except.ok ?_
        rw [parseWhole_blank_append tree.elements formatter.parseSettings allowed blanks start]
        cases parseWhole tree.elements formatter.parseSettings text.toList "OffsetDateTime" with
        | error failure => rfl
        | ok bucket => exact (formatter.valueOf_movedOn bucket _).symm

/-- A hyphen in place of the colon is met behind two digits, and behind the four bytes of a space and
an ideographic space that stand before them. -/
theorem never_looks_behind_indented :
    let clock : DateTimeFormatter :=
      { printer? := none
        parser? := some ⟨0, [.number (.ofDateTime .hourOfDay 2 2), .literal .timeSeparator,
          .number (.ofDateTime .minuteOfHour 2 2)]⟩
        styles := { leadingBlank := true } }
    let blank := [' ', '\u3000']
    let mismatch (position : Nat) : Failure :=
      { kind := .timeSeparatorMismatch, params := [.text ":"], position? := some position }
    clock.styles.leadingBlank = true ∧ (∀ c ∈ blank, Text.isBlank c = true) ∧
      (∃ c ∈ "10-30".toList.head?, Text.isBlank c = false) ∧
      clock.tryParse "10-30" = .ok (.error (mismatch 2)) ∧
      clock.tryParse (String.ofList blank ++ "10-30") = .ok (.error (mismatch 6)) := by
  intro clock blank mismatch
  have blanks : ∀ c ∈ blank, Text.isBlank c = true :=
    List.forall_mem_cons.mpr ⟨by decide, List.forall_mem_singleton.mpr (by decide)⟩
  have start : ∃ c ∈ "10-30".toList.head?, Text.isBlank c = false := ⟨'1', rfl, by decide⟩
  have alone : clock.tryParse "10-30" = .ok (.error (mismatch 2)) := by decide +kernel
  have indented := (never_looks_behind blank).2 clock "10-30" rfl blanks start
  rw [alone] at indented
  exact ⟨rfl, blanks, start, alone, indented⟩

end Element

end ChronoText
