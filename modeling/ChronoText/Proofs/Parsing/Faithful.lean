import ChronoText.Proofs.Parsing.Legible
import ChronoText.Proofs.Parsing.Readers

/-! Faithful reports. Whatever the elements, nested in any way, and the text are, reading goes from
places of the text to places of the text. Where it gets on it has recorded no failure, where it fails
it has recorded the failure with the position it returns, and the entries of the bucket that no
element stands for are as they were. -/

set_option autoImplicit false

namespace ChronoText

open Bucket

/-- What reading that starts at a cursor without a failure returns and leaves: a place of the text and
no failure, or the position of such a place and a failure that was recorded there. -/
inductive Reports (start : Cursor) (entries : Entry → Prop) (bucket : Bucket) :
    ParseOutcome × ParseState → Prop where
  | advanced {next after} :
      start.Reaches next → bucket.ChangesOnly entries after →
      Reports start entries bucket (.advanced next, ⟨after, none⟩)
  | failed {place : Cursor} {failure : Failure} {after} :
      start.Reaches place → failure.IsOwn → bucket.ChangesOnly entries after →
      Reports start entries bucket
        (.failedAt place.position, ⟨after, some (failure.located place.position)⟩)

variable {entries : Entry → Prop}

theorem Reports.behind {start middle : Cursor} {before bucket : Bucket}
    {result : ParseOutcome × ParseState} (reached : start.Reaches middle)
    (changes : before.ChangesOnly entries bucket) (reports : Reports middle entries bucket result) :
    Reports start entries before result := by
  cases reports with
  | advanced reaches more => exact .advanced (reached.trans reaches) (changes.trans more)
  | failed reaches reason more => exact .failed (reached.trans reaches) reason (changes.trans more)

namespace ParseState

theorem fail_reports {state : ParseState} (clear : state.failure? = none) {start : Cursor}
    {before : Bucket} (changes : before.ChangesOnly entries state.bucket) {fault : Fault}
    (lies : fault.LiesBehind start) : Reports start entries before (state.fail fault) := by
  obtain ⟨bucket, failure?⟩ := state
  obtain ⟨position, failure⟩ := fault
  obtain ⟨⟨place, reaches, rfl⟩, reason⟩ := lies
  cases clear
  exact .failed reaches reason changes

theorem settle_reports {state : ParseState} (clear : state.failure? = none) {start : Cursor}
    {result : Except Fault (Cursor × Bucket)}
    (ends : Ends (GetsOn start entries state.bucket) (Fault.LiesBehind start) result) :
    Reports start entries state.bucket (state.settle result) := by
  cases result with
  | error fault => exact fail_reports clear (.refl entries _) ends
  | ok read =>
      obtain ⟨bucket, failure?⟩ := state
      cases clear
      exact .advanced ends.1 ends.2

end ParseState

theorem NumberField.parse_reports {number : NumberField} (own : entries number.selector.entry)
    (millis : number.optionalMillis = true → entries (.unit .millis)) (settings : ParseSettings)
    (cursor : Cursor) {state : ParseState} (clear : state.failure? = none) :
    Reports cursor entries state.bucket (number.parse settings cursor state) := by
  have ends := read_ends own millis settings cursor state.bucket
  obtain ⟨bucket, failure?⟩ := state
  cases clear
  unfold NumberField.parse
  dsimp only at ends ⊢
  cases read : number.read settings cursor bucket with
  | ok taken =>
      rw [read] at ends
      exact .advanced ends.1 ends.2
  | error interruption =>
      rw [read] at ends
      cases interruption with
      | absent => exact .advanced (.refl cursor) (.refl entries bucket)
      | failed fault after => exact ParseState.fail_reports rfl ends.2 ends.1

theorem Separator.reaches_of_skip? {between : Separator} {cursor next : Cursor}
    (skipped : between.skip? cursor = some next) : cursor.Reaches next := by
  obtain ⟨form, _, skipped⟩ := List.exists_of_findSome?_eq_some skipped
  exact Cursor.reaches_of_skip? skipped

theorem Separator.reaches_getD (between : Separator) (cursor : Cursor) :
    cursor.Reaches ((between.skip? cursor).getD cursor) := by
  cases skipped : between.skip? cursor with
  | none => exact .refl cursor
  | some next => exact reaches_of_skip? skipped

namespace PassedSeparator

/-- The separator was passed at a place behind a cursor. -/
def LiesBehind (start : Cursor) (passed : PassedSeparator) : Prop :=
  ∃ place, start.Reaches place ∧ passed.position = place.position

theorem fault_liesBehind {start : Cursor} {passed : PassedSeparator}
    (lies : passed.LiesBehind start) {finish : Nat} {fault : Fault}
    (faulty : passed.fault? finish = some fault) : fault.LiesBehind start := by
  unfold fault? at faulty
  split at faulty
  · cases faulty
    exact ⟨lies, ⟨⟨rfl, nofun, rfl⟩, nofun⟩⟩
  · split at faulty
    · cases faulty
      exact ⟨lies, ⟨⟨rfl, nofun, rfl⟩, nofun⟩⟩
    · cases faulty

end PassedSeparator

namespace Element

theorem passSeparator_reaches (between : Separator) (segment : Nat) (cursor : Cursor) :
    cursor.Reaches (passSeparator between segment cursor).2 ∧
      (passSeparator between segment cursor).1.position =
        (passSeparator between segment cursor).2.position := by
  refine ⟨?_, rfl⟩
  unfold passSeparator
  dsimp only
  split
  · exact between.reaches_getD cursor
  · exact .refl cursor

theorem finish_reports {start cursor : Cursor} (reached : start.Reaches cursor)
    {passed : List PassedSeparator} (lie : ∀ check ∈ passed, check.LiesBehind start)
    {state : ParseState} (clear : state.failure? = none) {before : Bucket}
    (changes : before.ChangesOnly entries state.bucket) :
    Reports start entries before (finish passed cursor state) := by
  unfold finish
  split
  · next fault found =>
      obtain ⟨check, member, faulty⟩ := List.exists_of_findSome?_eq_some found
      exact ParseState.fail_reports clear changes
        (PassedSeparator.fault_liesBehind (lie check member) faulty)
  · obtain ⟨bucket, failure?⟩ := state
    cases clear
    exact .advanced reached changes

theorem parseFrom_failed {settings : ParseSettings} {cursor : Cursor} {position : Nat}
    {state after : ParseState} {element : Element} (plain : ¬ IsSeparator element)
    (read : parse settings cursor state element = (.failedAt position, after)) (segment : Nat)
    (passed : List PassedSeparator) (rest : List Element) :
    parseFrom settings segment passed cursor state (element :: rest) =
      (.failedAt position, after) := by
  rw [parseFrom, read]
  exact fun between same => plain ⟨between, same⟩

mutual

theorem parse_reports (settings : ParseSettings) (cursor : Cursor) {state : ParseState}
    (clear : state.failure? = none) :
    ∀ element : Element, (∀ entry, element.stores entry → entries entry) →
      Reports cursor entries state.bucket (parse settings cursor state element)
  | .literal text, _ => by
      refine ParseState.settle_reports clear ?_
      have ends := text.read_ends settings cursor
      cases read : text.read settings cursor with
      | ok next =>
          rw [read] at ends
          exact ⟨ends, .refl entries _⟩
      | error fault =>
          rw [read] at ends
          exact ends
  | .number field, own =>
      NumberField.parse_reports (own _ (.inl rfl)) (fun optional => own _ (.inr ⟨optional, rfl⟩))
        settings cursor clear
  | .name field, own =>
      ParseState.settle_reports clear (field.read_ends (own _ rfl) settings cursor state.bucket)
  | .fraction field, own =>
      ParseState.settle_reports clear (field.read_ends (own _ rfl) settings cursor state.bucket)
  | .twoDigitYear field, own =>
      ParseState.settle_reports clear (field.read_ends (own _ rfl) settings cursor state.bucket)
  | .offset style, own =>
      ParseState.settle_reports clear (style.read_ends (own _ rfl) cursor state.bucket)
  | .separator between, _ => by
      obtain ⟨bucket, failure?⟩ := state
      cases clear
      exact .advanced (between.reaches_getD cursor) (.refl entries bucket)
  | .composite elements, own =>
      parseFrom_reports settings cursor.position (.refl cursor) (List.forall_mem_nil _) clear
        (.refl entries _) elements own

/-- Reading a sequence of elements reports faithfully about all of it, from where it started. -/
theorem parseFrom_reports (settings : ParseSettings) (segment : Nat) {start cursor : Cursor}
    (reached : start.Reaches cursor) {passed : List PassedSeparator}
    (lie : ∀ check ∈ passed, check.LiesBehind start) {state : ParseState}
    (clear : state.failure? = none) {before : Bucket}
    (changes : before.ChangesOnly entries state.bucket) :
    ∀ elements : List Element, (∀ entry, anyStores entry elements → entries entry) →
      Reports start entries before (parseFrom settings segment passed cursor state elements)
  | [], _ => finish_reports reached lie clear changes
  | element :: rest, own => by
      have ofElement : ∀ entry, element.stores entry → entries entry :=
        fun entry stored => own entry (.inl stored)
      have ofRest : ∀ entry, anyStores entry rest → entries entry :=
        fun entry stored => own entry (.inr stored)
      -- The start stays that of the whole sequence, as a fault of a separator is found at the end only.
      by_cases separator : IsSeparator element
      · obtain ⟨between, rfl⟩ := separator
        obtain ⟨forth, place⟩ := passSeparator_reaches between segment cursor
        have behind := reached.trans forth
        rw [parseFrom_separator]
        refine parseFrom_reports settings _ behind ?_ clear changes rest ofRest
        exact List.forall_mem_cons.mpr ⟨⟨_, behind, place⟩, lie⟩
      · have reports := (parse_reports settings cursor clear element ofElement).behind reached changes
        cases read : parse settings cursor state element with
        | mk outcome after =>
            rw [read] at reports
            cases reports with
            | advanced reaches later =>
                rw [parseFrom_element separator read]
                exact parseFrom_reports settings segment reaches lie rfl later rest ofRest
            | failed reaches reason later =>
                rw [parseFrom_failed separator read]
                exact .failed reaches reason later

end

/-- Where a sequence is read to the end, no separator that was passed before it is at fault, and
entries that no element stands for are as they were. -/
theorem parseFrom_advanced {settings : ParseSettings} {segment : Nat}
    {passed : List PassedSeparator} {cursor next : Cursor} {state after : ParseState}
    {elements : List Element} (own : ∀ entry, anyStores entry elements → entries entry)
    (clear : state.failure? = none)
    (read : parseFrom settings segment passed cursor state elements = (.advanced next, after)) :
    cursor.Reaches next ∧ (∀ check ∈ passed, check.fault? next.position = none) ∧
      state.bucket.ChangesOnly entries after.bucket := by
  induction elements generalizing segment passed cursor state with
  | nil =>
      rw [parseFrom, finish] at read
      split at read
      · cases read
      · next quiet =>
          cases read
          exact ⟨.refl _, List.findSome?_eq_none_iff.mp quiet, .refl _ _⟩
  | cons element rest ih =>
      have ofRest : ∀ entry, anyStores entry rest → entries entry :=
        fun entry stored => own entry (.inr stored)
      by_cases separator : IsSeparator element
      · obtain ⟨between, rfl⟩ := separator
        rw [parseFrom_separator] at read
        obtain ⟨reaches, quiet, changes⟩ := ih ofRest clear read
        refine ⟨(passSeparator_reaches between segment cursor).1.trans reaches, ?_, changes⟩
        exact (List.forall_mem_cons.mp quiet).2
      · have reports := parse_reports settings cursor clear element
          fun entry stored => own entry (.inl stored)
        cases taken : parse settings cursor state element with
        | mk outcome behind =>
            rw [taken] at reports
            cases reports with
            | failed =>
                rw [parseFrom_failed separator taken] at read
                cases read
            | advanced reached changed =>
                rw [parseFrom_element separator taken] at read
                obtain ⟨reaches, quiet, changes⟩ := ih ofRest rfl read
                exact ⟨reached.trans reaches, quiet, changed.trans changes⟩

/-! ## Places that are visited -/

mutual

/-- The places from which an element and the elements inside it are read. -/
def visits (settings : ParseSettings) (cursor : Cursor) (state : ParseState) :
    Element → List Cursor
  | .composite elements => visitsFrom settings cursor.position cursor state elements
  | .literal _ | .number _ | .name _ | .fraction _ | .twoDigitYear _ | .offset _ | .separator _ =>
    [cursor]

/-- The places from which the elements of a sequence are read, up to one that fails. -/
def visitsFrom (settings : ParseSettings) (segment : Nat) (cursor : Cursor) (state : ParseState) :
    List Element → List Cursor
  | [] => [cursor]
  | .separator between :: rest =>
    let next := (passSeparator between segment cursor).2
    cursor :: visitsFrom settings next.position next state rest
  | element :: rest =>
    visits settings cursor state element ++
      match parse settings cursor state element with
      | (.advanced next, after) => visitsFrom settings segment next after rest
      | (.failedAt _, _) => []

end

mutual

theorem reaches_visits (settings : ParseSettings) (cursor : Cursor) {state : ParseState}
    (clear : state.failure? = none) :
    ∀ element : Element, ∀ visited ∈ visits settings cursor state element, cursor.Reaches visited
  | .composite elements => reaches_visitsFrom settings _ cursor clear elements
  | .literal _ | .number _ | .name _ | .fraction _ | .twoDigitYear _ | .offset _ | .separator _ => by
      rintro visited (_ | ⟨_, ⟨⟩⟩)
      exact .refl cursor

theorem reaches_visitsFrom (settings : ParseSettings) (segment : Nat) (cursor : Cursor)
    {state : ParseState} (clear : state.failure? = none) :
    ∀ elements : List Element,
      ∀ visited ∈ visitsFrom settings segment cursor state elements, cursor.Reaches visited
  | [] => by
      rintro visited (_ | ⟨_, ⟨⟩⟩)
      exact .refl cursor
  | element :: rest => by
      intro visited member
      by_cases separator : IsSeparator element
      · obtain ⟨between, rfl⟩ := separator
        rw [visitsFrom] at member
        rcases List.mem_cons.mp member with rfl | later
        · exact .refl _
        · exact (passSeparator_reaches between segment cursor).1.trans
            (reaches_visitsFrom settings _ _ clear rest visited later)
      · rw [visitsFrom] at member
        case x_1 => exact fun between same => separator ⟨between, same⟩
        rcases List.mem_append.mp member with own | later
        · exact reaches_visits settings cursor clear element visited own
        · have reports := parse_reports settings cursor clear element fun _ stored => stored
          cases read : parse settings cursor state element with
          | mk outcome after =>
              rw [read] at reports later
              cases reports with
              | advanced reaches _ =>
                  exact reaches.trans (reaches_visitsFrom settings segment _ rfl rest visited later)
              | failed => cases later

end

end Element

/-! ## Reports in terms of the text -/

theorem reaches_startOf (styles : ParseStyles) (text : List Char) :
    (Cursor.start text).Reaches (startOf styles text) := by
  unfold startOf
  dsimp only
  split
  · exact .advance _ _
  · exact .refl _

theorem parse_start_reports (elements : List Element) (settings : ParseSettings)
    (text : List Char) :
    Reports (startOf settings.styles text) (fun entry => Element.anyStores entry elements) .empty
      (Element.parse settings (startOf settings.styles text) {} (.composite elements)) := by
  have clear : ({} : ParseState).failure? = none := rfl
  exact Element.parse_reports settings _ clear (.composite elements) fun _ stored => stored

/-- A whole text that is not read has a failure of its own: what it says never falls back on what
there was to be read. -/
theorem isOwn_of_parseWhole_error {elements : List Element} {settings : ParseSettings}
    {text : List Char} {wanted : String} {failure : Failure}
    (refused : parseWhole elements settings text wanted = .error failure) : failure.IsOwn := by
  unfold parseWhole at refused
  split at refused
  · cases refused
    exact ⟨⟨rfl, nofun, rfl⟩, nofun⟩
  · have reports := parse_start_reports elements settings text
    dsimp only at refused
    cases read : Element.parse settings (startOf settings.styles text) {} (.composite elements) with
    | mk outcome state =>
        rw [read] at reports refused
        cases reports with
        | failed _ reason _ =>
            cases refused
            exact reason.located _
        | advanced _ _ =>
            dsimp only at refused
            split at refused
            · split at refused
              · cases refused
              · cases refused
                exact ⟨⟨rfl, nofun, rfl⟩, nofun⟩
            · split at refused
              · cases refused
              · cases refused
                exact ⟨⟨rfl, nofun, rfl⟩, nofun⟩

theorem kind_of_parseWhole_error {elements : List Element} {settings : ParseSettings}
    {text : List Char} {wanted : String} {failure : Failure}
    (refused : parseWhole elements settings text wanted = .error failure) :
    failure.kind ≠ .noSuchValue :=
  (isOwn_of_parseWhole_error refused).own

/-- What reading from a position of a text returns and leaves, where no failure was recorded before:
either a position at or behind it where a character starts or the text ends, and no failure; or the
position of a failure, which is such a position, and the failure with it. Outside of the entries the
bucket is as it was. -/
inductive FaithfulIn (text : List Char) (position : Nat) (entries : Entry → Prop) (bucket : Bucket) :
    ParseOutcome × ParseState → Prop where
  | advanced {next : Cursor} {after} :
      position ≤ next.position → next.position ≤ Text.utf8Length text →
      Cursor.seek text next.position = .ok next → bucket.ChangesOnly entries after →
      FaithfulIn text position entries bucket (.advanced next, ⟨after, none⟩)
  | failedAt {place : Nat} {there : Cursor} {failure : Failure} {after} :
      position ≤ place → place ≤ Text.utf8Length text → Cursor.seek text place = .ok there →
      failure.position? = some place → bucket.ChangesOnly entries after →
      FaithfulIn text position entries bucket (.failedAt place, ⟨after, some failure⟩)

theorem Cursor.Reaches.position_le_utf8Length {text : List Char} {cursor : Cursor}
    (reaches : (Cursor.start text).Reaches cursor) : cursor.position ≤ Text.utf8Length text := by
  have bound := reaches.position_le_end
  rwa [Cursor.start, Nat.zero_add] at bound

theorem Reports.faithfulIn {text : List Char} {cursor : Cursor} {bucket : Bucket}
    {result : ParseOutcome × ParseState} (started : (Cursor.start text).Reaches cursor)
    (reports : Reports cursor entries bucket result) :
    FaithfulIn text cursor.position entries bucket result := by
  cases reports with
  | advanced reaches changes =>
      have within := started.trans reaches
      exact .advanced reaches.position_le within.position_le_utf8Length
        (Cursor.seek_eq_ok_iff.mpr ⟨within, rfl⟩) changes
  | failed reaches _ changes =>
      have within := started.trans reaches
      exact .failedAt reaches.position_le within.position_le_utf8Length
        (Cursor.seek_eq_ok_iff.mpr ⟨within, rfl⟩) rfl changes

namespace Element

/-- From any position where a character starts or the text ends, elements of any kind, nested in any
way, are read from such positions only, however many characters each of them goes on, and their
outcome is reported faithfully. When a whole text is read, the failure that stands in for a missing
one is never used, and reading never gets behind the end of the text. -/
theorem parse_faithful (elements : List Element) (settings : ParseSettings) {text : List Char}
    {position : Nat} {cursor : Cursor} (found : Cursor.seek text position = .ok cursor)
    {state : ParseState} (clear : state.failure? = none) :
    (∀ visited ∈ visits settings cursor state (.composite elements), ∀ characters,
      Cursor.seek text (visited.advance characters).position = .ok (visited.advance characters)) ∧
    FaithfulIn text position (fun entry => anyStores entry elements) state.bucket
      (parse settings cursor state (.composite elements)) ∧
    (∀ wanted failure, parseWhole elements settings text wanted = .error failure →
      failure.kind ≠ .noSuchValue) ∧
    (∀ next after, parse settings (startOf settings.styles text) {} (.composite elements) =
      (.advanced next, after) → next.position ≤ Text.utf8Length text) := by
  obtain ⟨started, rfl⟩ := Cursor.seek_eq_ok_iff.mp found
  refine ⟨?_, ?_, fun wanted failure => kind_of_parseWhole_error, ?_⟩
  · intro visited member characters
    have reaches := reaches_visits settings cursor clear (.composite elements) visited member
    exact Cursor.seek_eq_ok_iff.mpr ⟨(started.trans reaches).trans (.advance visited characters), rfl⟩
  · exact (parse_reports settings cursor clear (.composite elements)
      fun _ stored => stored).faithfulIn started
  · intro next after read
    have reports := parse_start_reports elements settings text
    rw [read] at reports
    cases reports with
    | advanced reaches _ =>
        exact ((reaches_startOf settings.styles text).trans reaches).position_le_utf8Length

/-- A number behind a literal of two bytes, then a format inside the format that asks for a month
behind a separator. -/
def nestedElements : List Element :=
  [.literal ⟨.given, "é"⟩, .number (.ofDateTime .year 4 6),
    .composite [.separator ⟨"–", "–", .ifFieldsAfter⟩, .number (.ofDateTime .monthOfYear 2 2)]]

theorem parse_faithful_nested :
    Cursor.seek "né2024–13".toList 1 = .ok ⟨1, "é2024–13".toList⟩ ∧
    ({} : ParseState).failure? = none ∧
    (∀ visited ∈ visits ⟨.invariant, {}, 2000, .standard⟩ ⟨1, "é2024–13".toList⟩ {}
        (.composite nestedElements), ∀ characters,
      Cursor.seek "né2024–13".toList (visited.advance characters).position =
        .ok (visited.advance characters)) ∧
    FaithfulIn "né2024–13".toList 1 (fun entry => anyStores entry nestedElements) .empty
      (parse ⟨.invariant, {}, 2000, .standard⟩ ⟨1, "é2024–13".toList⟩ {}
        (.composite nestedElements)) := by
  have found : Cursor.seek "né2024–13".toList 1 = .ok ⟨1, "é2024–13".toList⟩ := rfl
  have clear : ({} : ParseState).failure? = none := rfl
  have faithful := parse_faithful nestedElements ⟨.invariant, {}, 2000, .standard⟩ found clear
  exact ⟨found, rfl, faithful.1, faithful.2.1⟩

end Element

end ChronoText
