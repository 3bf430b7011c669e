import ChronoText.Proofs.Failure.Messages
import ChronoText.Proofs.Parsing.Places

/-! What the readers of single elements promise for any text. A reader that gets on stands at a place
of the text behind the one where it started; a fault lies at such a place and has a failure of its
own. In the bucket only what the element stands for changes. -/

set_option autoImplicit false

namespace ChronoText

open Bucket

/-! ## Results -/

/-- A value that was made is good, and an error that was met is admissible. -/
def Ends {Error Value : Type} (good : Value → Prop) (admissible : Error → Prop) :
    Except Error Value → Prop
  | .ok value => good value
  | .error error => admissible error

namespace Ends

variable {Error Other Value Result : Type} {good : Value → Prop} {admissible : Error → Prop}

theorem bind {later : Result → Prop} {result : Except Error Value}
    {next : Value → Except Error Result} (first : Ends good admissible result)
    (second : ∀ value, good value → Ends later admissible (next value)) :
    Ends later admissible (result >>= next) := by
  cases result with
  | ok value => exact second value first
  | error error => exact first

theorem self (result : Except Error Value) : Ends (result = .ok ·) (result = .error ·) result := by
  cases result <;> rfl

theorem of_ok {result : Except Error Value} (ends : Ends good admissible result) {value : Value}
    (made : result = .ok value) : good value := by
  rw [made] at ends
  exact ends

theorem of_error {result : Except Error Value} (ends : Ends good admissible result) {error : Error}
    (refused : result = .error error) : admissible error := by
  rw [refused] at ends
  exact ends

theorem mapError {worse : Other → Prop} {result : Except Error Value} {map : Error → Other}
    (first : Ends good admissible result) (worsens : ∀ error, admissible error → worse (map error)) :
    Ends good worse (result.mapError map) := by
  cases result with
  | ok value => exact first
  | error error => exact worsens error first

theorem mono {better : Value → Prop} {result : Except Error Value}
    (first : Ends good admissible result) (improves : ∀ value, good value → better value) :
    Ends better admissible result := by
  cases result with
  | ok value => exact improves value first
  | error error => exact first

theorem ite {condition : Prop} [Decidable condition] {first second : Except Error Value}
    (whenTrue : condition → Ends good admissible first)
    (whenFalse : ¬ condition → Ends good admissible second) :
    Ends good admissible (if condition then first else second) := by
  split
  · exact whenTrue ‹_›
  · exact whenFalse ‹_›

end Ends

/-- The fault lies at a place of the text behind a cursor, and its failure is one of its own. -/
def Fault.LiesBehind (start : Cursor) (fault : Fault) : Prop :=
  (∃ place, start.Reaches place ∧ fault.position = place.position) ∧
    fault.failure.IsOwn

theorem Fault.liesBehind_of_reaches {start place : Cursor} {failure : Failure}
    (reaches : start.Reaches place) (reason : failure.IsOwn) :
    Fault.LiesBehind start ⟨place.position, failure⟩ :=
  ⟨⟨place, reaches, rfl⟩, reason⟩

theorem Fault.LiesBehind.trans {start middle : Cursor} {fault : Fault}
    (lies : fault.LiesBehind middle) (reaches : start.Reaches middle) : fault.LiesBehind start := by
  obtain ⟨⟨place, behind, position⟩, reason⟩ := lies
  exact ⟨⟨place, reaches.trans behind, position⟩, reason⟩

/-- Reading that starts at a cursor gets on to a place of the text with only the entries changed. -/
def GetsOn (start : Cursor) (entries : Entry → Prop) (bucket : Bucket) (read : Cursor × Bucket) :
    Prop :=
  start.Reaches read.1 ∧ bucket.ChangesOnly entries read.2

variable {entries : Entry → Prop}

theorem Literal.mismatch_isOwn (literal : Literal) (expected : String) :
    (literal.mismatch expected).IsOwn := by
  unfold mismatch
  repeat' split
  all_goals exact ⟨⟨rfl, nofun, rfl⟩, nofun⟩

theorem Literal.read_ends (literal : Literal) (settings : ParseSettings) (cursor : Cursor) :
    Ends cursor.Reaches (Fault.LiesBehind cursor) (literal.read settings cursor) := by
  unfold read
  dsimp only
  split
  · exact .advance cursor _
  · cases skipped : cursor.skip? (literal.resolve settings.culture) with
    | some behind => exact Cursor.reaches_of_skip? skipped
    | none => exact Fault.liesBehind_of_reaches (.refl cursor) (literal.mismatch_isOwn _)

theorem NameField.read_ends (name : NameField) (own : entries (.field name.field))
    (settings : ParseSettings) (cursor : Cursor) (bucket : Bucket) :
    Ends (GetsOn cursor entries bucket) (Fault.LiesBehind cursor)
      (name.read settings cursor bucket) := by
  unfold read
  dsimp only
  split
  · exact ⟨.advance cursor _, .setField own bucket _⟩
  · exact Fault.liesBehind_of_reaches (.refl cursor) ⟨⟨rfl, nofun, rfl⟩, nofun⟩

theorem FractionField.read_ends (fraction : FractionField) (own : entries (.field .nanoOfSecond))
    (settings : ParseSettings) (cursor : Cursor) (bucket : Bucket) :
    Ends (GetsOn cursor entries bucket) (Fault.LiesBehind cursor)
      (fraction.read settings cursor bucket) := by
  unfold read
  dsimp only
  split
  · exact Fault.liesBehind_of_reaches (.refl cursor) ⟨⟨rfl, nofun, rfl⟩, nofun⟩
  · exact ⟨.advance cursor _, .setField own bucket _⟩

theorem TwoDigitYear.read_ends (year : TwoDigitYear) (own : entries (.field year.field))
    (settings : ParseSettings) (cursor : Cursor) (bucket : Bucket) :
    Ends (GetsOn cursor entries bucket) (Fault.LiesBehind cursor)
      (year.read settings cursor bucket) := by
  unfold read
  split
  · exact ⟨.advance cursor 2, .setField own bucket _⟩
  · exact Fault.liesBehind_of_reaches (.refl cursor) ⟨⟨rfl, nofun, rfl⟩, nofun⟩

namespace OffsetStyle

theorem twoDigits_ends {start cursor : Cursor} (reached : start.Reaches cursor) :
    Ends (fun read : Nat × Cursor => start.Reaches read.2) (Fault.LiesBehind start)
      (twoDigits cursor) := by
  unfold twoDigits
  split
  · exact reached.trans (.advance cursor 2)
  · exact Fault.liesBehind_of_reaches reached ⟨⟨rfl, nofun, rfl⟩, nofun⟩

theorem skipSeparator_ends (style : OffsetStyle) {start cursor : Cursor}
    (reached : start.Reaches cursor) :
    Ends start.Reaches (Fault.LiesBehind start) (style.skipSeparator cursor) := by
  unfold skipSeparator
  split
  · exact reached
  · split
    · exact reached.trans (.advance cursor 1)
    · exact Fault.liesBehind_of_reaches reached ⟨⟨rfl, nofun, rfl⟩, nofun⟩

theorem reaches_optionalSeconds (style : OffsetStyle) (cursor : Cursor) :
    cursor.Reaches (style.optionalSeconds cursor).2 := by
  have skipped := style.skipSeparator_ends (.refl cursor)
  unfold optionalSeconds
  split
  · exact .refl cursor
  · next behind passed =>
      rw [passed] at skipped
      split
      · exact Cursor.Reaches.trans skipped (.advance behind 2)
      · exact .refl cursor

theorem readParts_ends (style : OffsetStyle) (sign : Sign) (start : Cursor) :
    Ends (fun read : Offset × Cursor => start.Reaches read.2) (Fault.LiesBehind start)
      (style.readParts sign start) := by
  unfold readParts
  refine Ends.bind (twoDigits_ends (.advance start 1)) ?_
  rintro ⟨hours, cursor⟩ behindHours
  refine Ends.bind (style.skipSeparator_ends behindHours) ?_
  intro cursor behindSeparator
  refine Ends.bind (twoDigits_ends behindSeparator) ?_
  rintro ⟨minutes, cursor⟩ behindMinutes
  dsimp only
  split
  · exact Cursor.Reaches.trans behindMinutes (style.reaches_optionalSeconds cursor)
  · exact Fault.liesBehind_of_reaches (.refl start) ⟨⟨rfl, nofun, rfl⟩, nofun⟩

theorem readOffset_ends (style : OffsetStyle) (cursor : Cursor) :
    Ends (fun read : Offset × Cursor => cursor.Reaches read.2) (Fault.LiesBehind cursor)
      (style.readOffset cursor) := by
  unfold readOffset
  split
  · exact .advance cursor 1
  · exact .advance cursor 1
  · exact style.readParts_ends .positive cursor
  · exact style.readParts_ends .negative cursor
  · exact Fault.liesBehind_of_reaches (.refl cursor) ⟨⟨rfl, nofun, rfl⟩, nofun⟩

theorem read_ends (style : OffsetStyle) (own : entries .offset) (cursor : Cursor)
    (bucket : Bucket) :
    Ends (GetsOn cursor entries bucket) (Fault.LiesBehind cursor) (style.read cursor bucket) := by
  unfold read
  refine Ends.bind (style.readOffset_ends cursor) ?_
  rintro ⟨offset, behind⟩ reached
  exact ⟨reached, .setOffset own bucket offset⟩

end OffsetStyle

namespace NumberField

/-- A numeral has thousandths only where the number allows them, and a fault of one lies behind the
place where it should start. -/
theorem readNumeral_ends (number : NumberField) (culture : Culture) (required : Bool)
    (before? : Option Nat) (start : Cursor) :
    Ends (fun numeral => number.optionalMillis = false → numeral.millis? = none)
      (fun fault? : Option Fault => ∀ fault ∈ fault?, fault.LiesBehind start)
      (number.readNumeral culture required before? start) := by
  have fault {place : Cursor} (reached : start.Reaches place) {failure : Failure}
      (reason : failure.IsOwn) :
      ∀ fault ∈ some (Fault.mk place.position failure), fault.LiesBehind start := by
    rintro _ ⟨⟩
    exact Fault.liesBehind_of_reaches reached reason
  unfold readNumeral
  refine Ends.ite (fun _ => fault (.refl start) ⟨⟨rfl, nofun, rfl⟩, nofun⟩) fun _ => ?_
  refine Ends.ite (fun _ => ?noDigit) fun _ => ?_
  case noDigit =>
    cases required with
    | true => exact fault (.refl start) ⟨⟨rfl, nofun, rfl⟩, nofun⟩
    | false => exact fun fault none => nomatch none
  refine Ends.ite (fun _ => fault (.advance start _) ⟨⟨rfl, nofun, rfl⟩, nofun⟩) fun _ => ?_
  refine Ends.ite (fun _ => fault (.advance start _) ⟨⟨rfl, nofun, rfl⟩, nofun⟩) fun _ => ?_
  intro refused
  have none := Bool.eq_false_iff.mp refused
  exact congrArg (Option.map _) (if_neg none)

theorem storeUnit_ends {unit : PeriodField} (own : entries (.unit unit)) (type : PeriodType)
    (bucket : Bucket) (value : Int32) :
    Ends (bucket.ChangesOnly entries) Failure.IsOwn
      (storeUnit type bucket unit value) := by
  unfold storeUnit
  refine Ends.ite (fun _ => ?_) fun _ => ?_
  · exact ⟨⟨rfl, nofun, rfl⟩, nofun⟩
  · exact .setPeriodField own bucket value

theorem store_ends {number : NumberField} (own : entries number.selector.entry)
    (millis : number.optionalMillis = true → entries (.unit .millis)) (type : PeriodType)
    {numeral : Numeral} (allowed : number.optionalMillis = false → numeral.millis? = none)
    (bucket : Bucket) :
    Ends (bucket.ChangesOnly entries)
      (fun error : Failure × Bucket => error.1.IsOwn ∧ bucket.ChangesOnly entries error.2)
      (number.store type numeral bucket) := by
  have unchanged {failure : Failure} (reason : failure.IsOwn) :
      failure.IsOwn ∧ bucket.ChangesOnly entries bucket :=
    ⟨reason, .refl entries bucket⟩
  unfold store
  split
  · next field selected =>
      rw [selected] at own
      refine Ends.ite (fun _ => ?_) fun _ => ?_
      · exact .setField own bucket _
      · exact unchanged ⟨⟨rfl, nofun, rfl⟩, nofun⟩
  · next unit selected =>
      rw [selected] at own
      refine Ends.ite (fun _ => unchanged ⟨⟨rfl, nofun, rfl⟩, nofun⟩) fun _ => ?_
      refine Ends.bind ((storeUnit_ends own type bucket _).mapError fun _ reason => unchanged reason) ?_
      intro stored first
      cases found : numeral.millis? with
      | none => exact first
      | some count =>
          have both : entries (.unit .millis) := by
            cases optional : number.optionalMillis with
            | true => exact millis optional
            | false => exact nomatch found.symm.trans (allowed optional)
          refine Ends.mapError ?_ fun _ reason => ⟨reason, first⟩
          exact (storeUnit_ends both type stored _).mono fun _ second => first.trans second

theorem reaches_of_skipAffix? {affix : Affix} {cursor next : Cursor}
    (skipped : affix.skip? cursor = some next) : cursor.Reaches next := by
  obtain ⟨form, _, skipped⟩ := List.exists_of_findSome?_eq_some skipped
  exact Cursor.reaches_of_skip? skipped

/-- Where reading a number can end without one: a part of it is missing, or its value is refused. -/
inductive Refuses (number : NumberField) (settings : ParseSettings) (start : Cursor)
    (bucket : Bucket) : Interruption → Prop where
  | absent : Refuses number settings start bucket .absent
  | nothing :
      Refuses number settings start bucket
        (.failed ⟨start.position, number.named .numberMismatch⟩ bucket)
  | leading {affix} :
      Refuses number settings start bucket (.failed ⟨start.position, affixMismatch affix⟩ bucket)
  | numeral {place required before? fault} :
      start.Reaches place →
      number.readNumeral settings.culture required before? place = .error (some fault) →
      Refuses number settings start bucket (.failed fault bucket)
  | value {place required before? numeral failure after} :
      start.Reaches place →
      number.readNumeral settings.culture required before? place = .ok numeral →
      number.store settings.periodType numeral bucket = .error (failure, after) →
      Refuses number settings start bucket (.failed ⟨place.position, failure⟩ after)
  | trailing {place required before? numeral after affix} :
      start.Reaches place →
      number.readNumeral settings.culture required before? place = .ok numeral →
      number.store settings.periodType numeral bucket = .ok after →
      Refuses number settings start bucket
        (.failed ⟨(place.advance numeral.length).position, affixMismatch affix⟩ after)

/-- What a number that is read takes: a numeral at a place of the text, and affixes around it. -/
inductive Takes (number : NumberField) (settings : ParseSettings) (start : Cursor)
    (bucket : Bucket) : Cursor × Bucket → Prop where
  | numeral {place required before? numeral after next} :
      start.Reaches place →
      number.readNumeral settings.culture required before? place = .ok numeral →
      number.store settings.periodType numeral bucket = .ok after →
      (place.advance numeral.length).Reaches next →
      Takes number settings start bucket (next, after)

/-- Reading a number goes step by step, and each step can end it. -/
theorem read_steps (number : NumberField) (settings : ParseSettings) (start : Cursor)
    (bucket : Bucket) :
    Ends (number.Takes settings start bucket) (number.Refuses settings start bucket)
      (number.read settings start bucket) := by
  have unread : number.Refuses settings start bucket .absent := .absent
  unfold NumberField.read
  refine Ends.ite (fun _ => Ends.ite (fun _ => .nothing) fun _ => unread) fun _ => ?_
  extract_lets behindLeading
  have afterLeading : ∀ numberStart required, start.Reaches numberStart →
      Ends (number.Takes settings start bucket) (number.Refuses settings start bucket)
        (behindLeading (numberStart, required)) := by
    intro numberStart required reached
    unfold behindLeading
    dsimp -zeta only
    extract_lets behindScan
    have afterScan : ∀ before?, Ends (number.Takes settings start bucket)
        (number.Refuses settings start bucket) (behindScan before?) := by
      intro before?
      unfold behindScan
      extract_lets required number_
      have inNumber : Ends (number.Takes settings start bucket)
          (number.Refuses settings start bucket) (number_ ()) := by
        unfold number_
        refine Ends.bind ((Ends.self (number.readNumeral settings.culture required before?
          numberStart)).mapError ?_) ?_
        · intro fault? refused
          cases fault? with
          | none => exact unread
          | some fault => exact .numeral reached refused
        · intro numeral found
          extract_lets numberEnd stored
          have afterNumeral : Ends (number.Takes settings start bucket)
              (number.Refuses settings start bucket) (stored ()) := by
            unfold stored
            refine Ends.bind ((Ends.self (number.store settings.periodType numeral bucket)).mapError
              fun _ refused => .value reached found refused) ?_
            intro after kept
            split
            · exact .numeral reached found kept (.refl numberEnd)
            · split
              · next behind skipped =>
                  exact .numeral reached found kept (reaches_of_skipAffix? skipped)
              · exact .trailing reached found kept
          split
          · exact Ends.ite (fun _ => unread) fun _ => afterNumeral
          · exact afterNumeral
      split
      · exact inNumber
      · exact Ends.ite (fun _ => unread) fun _ => inNumber
    split
    · exact afterScan none
    · refine Ends.ite (fun _ => afterScan none) fun _ => ?_
      split
      · exact afterScan (some _)
      · exact unread
  split
  · exact afterLeading start _ (.refl start)
  · split
    · next behind skipped => exact afterLeading behind true (reaches_of_skipAffix? skipped)
    · show number.Refuses settings start bucket (if _ then _ else _)
      split
      · exact .leading
      · exact unread

/-- An interruption that is a failure lies at a place of the text. -/
def Interruption.Admissible (start : Cursor) (entries : Entry → Prop) (bucket : Bucket) :
    Interruption → Prop
  | .absent => True
  | .failed fault after => fault.LiesBehind start ∧ bucket.ChangesOnly entries after

/-- The affixes and the number get on to places of the text, and only the entries of the number
change. -/
theorem read_ends {number : NumberField} (own : entries number.selector.entry)
    (millis : number.optionalMillis = true → entries (.unit .millis)) (settings : ParseSettings)
    (start : Cursor) (bucket : Bucket) :
    Ends (GetsOn start entries bucket) (Interruption.Admissible start entries bucket)
      (number.read settings start bucket) := by
  have failed {place : Cursor} {failure : Failure} {after : Bucket} (reached : start.Reaches place)
      (reason : failure.IsOwn) (changes : bucket.ChangesOnly entries after) :
      Interruption.Admissible start entries bucket (.failed ⟨place.position, failure⟩ after) :=
    ⟨Fault.liesBehind_of_reaches reached reason, changes⟩
  have same : bucket.ChangesOnly entries bucket := .refl entries bucket
  have stores {place required before? numeral}
      (found : number.readNumeral settings.culture required before? place = .ok numeral) :=
    store_ends own millis settings.periodType
      ((number.readNumeral_ends settings.culture required before? place).of_ok found) bucket
  have steps := number.read_steps settings start bucket
  cases read : number.read settings start bucket with
  | ok taken =>
      cases steps.of_ok read with
      | numeral reached found kept behind =>
          exact ⟨(reached.trans (.advance _ _)).trans behind, (stores found).of_ok kept⟩
  | error interruption =>
      cases steps.of_error read with
      | absent => exact trivial
      | nothing => exact failed (.refl start) ⟨⟨rfl, nofun, rfl⟩, nofun⟩ same
      | leading => exact failed (.refl start) ⟨⟨rfl, nofun, rfl⟩, nofun⟩ same
      | numeral reached refused =>
          have lies := (number.readNumeral_ends settings.culture _ _ _).of_error refused
          exact ⟨(lies _ rfl).trans reached, same⟩
      | value reached found refused =>
          have reason := (stores found).of_error refused
          exact failed reached reason.1 reason.2
      | trailing reached found kept =>
          exact failed (reached.trans (.advance _ _)) ⟨⟨rfl, nofun, rfl⟩, nofun⟩
            ((stores found).of_ok kept)

end NumberField

end ChronoText
