import ChronoText.Proofs.Formatter.Reachable
import ChronoText.Proofs.Parsing.Faithful
import ChronoText.Proofs.Pattern.Grammar

/-! Errors of patterns and errors of texts. A pattern is only refused with an error of its own class,
and so is a text, which is never a misuse. Whatever was refused, also an argument that was empty,
its failure has a parameter for each hole of its wording. -/

set_option autoImplicit false

namespace ChronoText

/-- There is a result, or what is wrong is the text. -/
abbrev OrOfText {Value : Type} (result : Except Failure Value) : Prop :=
  Ends (fun _ => True) Failure.IsOfText result

/-! ## Values that cannot be made -/

namespace Bucket

theorem outOfRange_isOfText (value : Int) (field : DateTimeField) :
    (outOfRange value field).IsOfText :=
  ⟨rfl, nofun, rfl⟩

variable (bucket : Bucket)

theorem checkedYear_orOfText (field : DateTimeField) (year : Int) :
    OrOfText (checkedYear field year) :=
  Ends.ite (fun _ => trivial) fun _ => outOfRange_isOfText year field

theorem weekYear_orOfText : OrOfText bucket.weekYear := by
  unfold weekYear
  split <;> exact checkedYear_orOfText _ _

theorem dayOfWeekDate_orOfText : OrOfText bucket.dayOfWeekDate := by
  rw [dayOfWeekDate_eq_bind]
  refine Ends.bind bucket.weekYear_orOfText fun weekYear _ => ?_
  exact Ends.ite (fun _ => outOfRange_isOfText _ _) fun _ => trivial

theorem dayOfOrdinalDate_orOfText (dayOfYear : Int) :
    OrOfText (bucket.dayOfOrdinalDate dayOfYear) := by
  refine Ends.bind (checkedYear_orOfText .year bucket.yearNumber) fun year _ => ?_
  exact Ends.ite (fun _ => outOfRange_isOfText _ _) fun _ => trivial

theorem dayOfCalendarDate_orOfText : OrOfText bucket.dayOfCalendarDate := by
  refine Ends.bind (checkedYear_orOfText .year bucket.yearNumber) fun year _ => ?_
  exact Ends.ite (fun _ => outOfRange_isOfText _ _) fun _ => trivial

theorem epochDay_orOfText : OrOfText bucket.epochDay := by
  unfold Bucket.epochDay
  refine Ends.ite (fun _ => bucket.dayOfCalendarDate_orOfText) fun _ => ?_
  refine Ends.ite (fun _ => bucket.dayOfWeekDate_orOfText) fun _ => ?_
  split
  · exact bucket.dayOfOrdinalDate_orOfText _
  · exact bucket.dayOfCalendarDate_orOfText

theorem toLocal_orOfText : OrOfText bucket.toLocal := by
  unfold Bucket.toLocal
  refine Ends.bind bucket.epochDay_orOfText fun day _ => ?_
  dsimp only
  repeat' split
  all_goals first | trivial | exact outOfRange_isOfText _ _ | exact ⟨rfl, nofun, rfl⟩

theorem putUnit_orOfText (period : Period) (field : PeriodField) :
    OrOfText (bucket.putUnit period field) := by
  unfold putUnit
  split
  · trivial
  · split
    · trivial
    · exact ⟨rfl, nofun, rfl⟩

theorem toPeriod_orOfText (type : PeriodType) : OrOfText (bucket.toPeriod type) := by
  have put (fields : List PeriodField) (period : Period) :
      OrOfText (fields.foldlM bucket.putUnit period) := by
    induction fields generalizing period with
    | nil => trivial
    | cons field fields ih =>
        rw [List.foldlM_cons]
        exact Ends.bind (bucket.putUnit_orOfText period field) fun next _ => ih next
  exact put PeriodField.all (.zeroOf type)

end Bucket

theorem parseWhole_orOfText (elements : List Element) (settings : ParseSettings)
    (text : List Char) (wanted : String) : OrOfText (parseWhole elements settings text wanted) := by
  cases refused : parseWhole elements settings text wanted with
  | ok bucket => trivial
  | error failure => exact (isOwn_of_parseWhole_error refused).ofText

theorem DateTimeFormatter.valueOf_orOfText (formatter : DateTimeFormatter) (bucket : Bucket) :
    OrOfText (formatter.valueOf bucket) := by
  unfold valueOf
  refine Ends.bind bucket.toLocal_orOfText fun value _ => ?_
  repeat' split
  all_goals first | trivial | exact ⟨rfl, nofun, rfl⟩

/-! ## Errors -/

namespace FormatError

/-- A pattern was refused, and the message is that of the failure. -/
structure IsOfPattern (error : FormatError) : Prop where
  kind : error.kind = .format
  failure : ∃ failure, error.failure? = some failure ∧ error.message = failure.message ∧
    failure.kind.isPatternFailure = true ∧ failure.IsComplete

/-- A text was refused, and the message is that of the failure. -/
structure IsOfText (error : FormatError) : Prop where
  kind : error.kind = .parse
  notUsage : error.isUsageError = false
  failure : ∃ failure, error.failure? = some failure ∧ error.message = failure.message ∧
    failure.IsOfText

theorem isOfPattern_ofFailure {failure : Failure}
    (ofPattern : failure.kind.isPatternFailure = true) (complete : failure.IsComplete) :
    (ofFailure failure).IsOfPattern :=
  ⟨kind_ofFailure_of_pattern ofPattern, failure, rfl, rfl, ofPattern, complete⟩

theorem isOfText_ofFailure {failure : Failure} (ofText : failure.IsOfText) :
    (ofFailure failure).IsOfText := by
  have kind : (ofFailure failure).kind = .parse := by
    rw [ofFailure, if_neg ofText.notArgument, if_neg (Bool.eq_false_iff.mp ofText.notPattern)]
  refine ⟨kind, ?_, failure, rfl, rfl, ofText⟩
  rw [isUsageError, kind]
  rfl

theorem isOfText_failureAsError {Value : Type} {result : Except Failure Value}
    (orOfText : OrOfText result) {error : FormatError}
    (refused : failureAsError result = .error error) : error.IsOfText := by
  cases result with
  | ok value => cases refused
  | error failure =>
      cases refused
      exact isOfText_ofFailure orOfText

end FormatError

theorem Pattern.elements_refuses {culture : Culture} {pattern : String} {failure : Failure}
    (refused : Pattern.elements culture pattern = .error failure) :
    failure.kind.isPatternFailure = true ∧ failure.IsComplete := by
  have compiled {pattern : List Char} (refused : Pattern.compile pattern = .error failure) :
      failure.kind.isPatternFailure = true ∧ failure.IsComplete := by
    unfold Pattern.compile at refused
    cases tokens : Pattern.compileFrom 0 pattern with
    | ok elements =>
        rw [tokens] at refused
        cases refused
    | error cause =>
        rw [tokens] at refused
        cases refused
        have refuses := Pattern.compileFrom_refuses tokens
        exact ⟨refuses.place.1, refuses.complete⟩
  unfold Pattern.elements at refused
  split at refused
  · cases refused
    exact ⟨rfl, rfl⟩
  · split at refused
    · exact compiled refused
    · cases refused
      exact ⟨rfl, rfl⟩
  · exact compiled refused

theorem DateTimeBuilder.appendPattern_error {builder : DateTimeBuilder} {culture : Culture}
    {pattern : String} {error : FormatError}
    (refused : builder.appendPattern culture pattern = .error error) : error.IsOfPattern := by
  unfold appendPattern failureAsError at refused
  cases compiled : Pattern.elements culture pattern with
  | ok elements =>
      rw [compiled] at refused
      cases refused
  | error failure =>
      rw [compiled] at refused
      cases refused
      obtain ⟨ofPattern, complete⟩ := Pattern.elements_refuses compiled
      exact FormatError.isOfPattern_ofFailure ofPattern complete

/-! ## Arguments of builders -/

/-- If the error has a failure at all, an argument was empty, and the message says which. -/
def FormatError.IsOfArgument (error : FormatError) : Prop :=
  ∀ failure, error.failure? = some failure →
    failure.kind = .emptyArgument ∧ error.message = failure.message ∧ failure.IsComplete

theorem FormatError.isOfArgument_emptyArgument (name : String) :
    (emptyArgument name).IsOfArgument := by
  rintro _ ⟨⟩
  exact ⟨rfl, rfl, rfl⟩

theorem FormatError.isOfArgument_misuse (misuse : Misuse) : misuse.error.IsOfArgument :=
  nofun

/-- There is a result, or what is wrong is an argument or the use of the builder. -/
abbrev OrOfArgument {Value : Type} (result : Except FormatError Value) : Prop :=
  Ends (fun _ => True) FormatError.IsOfArgument result

namespace PeriodBuilder

theorem requireText_orOfArgument (name text : String) : OrOfArgument (requireText name text) :=
  Ends.ite (fun _ => FormatError.isOfArgument_emptyArgument name) fun _ => trivial

theorem requireNothingWaiting_orOfArgument (builder : PeriodBuilder) :
    OrOfArgument builder.requireNothingWaiting :=
  Ends.ite (fun _ => FormatError.isOfArgument_misuse _) fun _ => trivial

theorem setLeading_orOfArgument (builder : PeriodBuilder) (affix : Affix) :
    OrOfArgument (builder.setLeading affix) := by
  refine Ends.ite (fun _ => FormatError.isOfArgument_misuse _) fun _ => ?_
  split
  · exact FormatError.isOfArgument_misuse _
  · trivial

theorem setTrailing_orOfArgument (builder : PeriodBuilder) (affix : Affix) :
    OrOfArgument (builder.setTrailing affix) := by
  refine Ends.bind builder.requireNothingWaiting_orOfArgument fun _ _ => ?_
  split
  · exact Ends.ite (fun _ => FormatError.isOfArgument_misuse _) fun _ => trivial
  · exact FormatError.isOfArgument_misuse _

theorem addSeparator_orOfArgument (builder : PeriodBuilder) (separator : Separator) :
    OrOfArgument (builder.addSeparator separator) := by
  refine Ends.bind (requireText_orOfArgument _ _) fun _ _ => ?_
  refine Ends.bind builder.requireNothingWaiting_orOfArgument fun _ _ => ?_
  split
  · exact FormatError.isOfArgument_misuse _
  · exact Ends.ite (fun _ => trivial) fun _ => trivial
  · trivial

theorem perform_orOfArgument (builder : PeriodBuilder) (operation : Operation) :
    OrOfArgument (builder.perform operation) := by
  have text := requireText_orOfArgument
  cases operation with
  | zeroPolicy | minPrintedDigits | maxParsedDigits | rejectSigned | unit
  | secondsWithOptionalMillis => trivial
  | leading => exact Ends.bind (text _ _) fun _ _ => builder.setLeading_orOfArgument _
  | pluralLeading =>
      refine Ends.bind (text _ _) fun _ _ => ?_
      exact Ends.bind (text _ _) fun _ _ => builder.setLeading_orOfArgument _
  | trailing => exact Ends.bind (text _ _) fun _ _ => builder.setTrailing_orOfArgument _
  | pluralTrailing =>
      refine Ends.bind (text _ _) fun _ _ => ?_
      exact Ends.bind (text _ _) fun _ _ => builder.setTrailing_orOfArgument _
  | literal =>
      refine Ends.bind (text _ _) fun _ _ => ?_
      exact Ends.bind builder.requireNothingWaiting_orOfArgument fun _ _ => trivial
  | separator | separatorIfFieldsAfter | separatorIfFieldsBefore =>
      exact builder.addSeparator_orOfArgument _
  | separatorWithFinal => exact Ends.bind (text _ _) fun _ _ => builder.addSeparator_orOfArgument _

theorem appendFormatter_orOfArgument (builder : PeriodBuilder) (formatter : PeriodFormatter) :
    OrOfArgument (builder.appendFormatter formatter) := by
  refine Ends.bind builder.requireNothingWaiting_orOfArgument fun _ _ => ?_
  split
  · trivial
  · exact FormatError.isOfArgument_misuse _

end PeriodBuilder

namespace DateTimeBuilder

theorem perform_error {builder : DateTimeBuilder} {operation : Operation} {error : FormatError}
    (refused : builder.perform operation = .error error) :
    error.IsOfPattern ∨ error.IsOfArgument := by
  have misused {condition : Prop} [Decidable condition] {misuse : Misuse} {next : DateTimeBuilder} :
      OrOfArgument (if condition then throw misuse.error else pure next) :=
    Ends.ite (fun _ => FormatError.isOfArgument_misuse misuse) fun _ => trivial
  cases operation with
  | number | name | offset | character | timeSeparator | dateSeparator | decimalSeparator =>
      cases refused
  | literal text =>
      have outcome : OrOfArgument (builder.appendLiteral text) :=
        Ends.ite (fun _ => FormatError.isOfArgument_emptyArgument _) fun _ => trivial
      exact .inr (outcome.of_error refused)
  | decimal | fixedDecimal | fraction => exact .inr (misused.of_error refused)
  | twoDigitYear field =>
      have outcome : OrOfArgument (builder.appendTwoDigitYear field) :=
        Ends.ite (fun _ => trivial) fun _ => FormatError.isOfArgument_misuse _
      exact .inr (outcome.of_error refused)
  | pattern => exact .inl (appendPattern_error refused)

theorem appendFormatter_error {builder : DateTimeBuilder} {formatter : DateTimeFormatter}
    {error : FormatError} (refused : builder.appendFormatter formatter = .error error) :
    error.IsOfArgument := by
  unfold appendFormatter at refused
  split at refused
  · cases refused
  · cases refused
    exact FormatError.isOfArgument_misuse _

end DateTimeBuilder

/-! ## Formatters -/

/-- There is an outcome and no error, and a failure is one of the text. -/
def Reads {Value : Type} (outcome : Except FormatError (Except Failure Value)) : Prop :=
  ∃ result, outcome = .ok result ∧ ∀ failure, result = .error failure → failure.IsOfText

theorem DateTimeFormatter.tryParse_reads {formatter : DateTimeFormatter}
    (parser : formatter.parser?.isSome) (text : String) : Reads (formatter.tryParse text) := by
  obtain ⟨tree, found⟩ := Option.isSome_iff_exists.mp parser
  have read := parseWhole_orOfText tree.elements formatter.parseSettings text.toList
    "OffsetDateTime"
  unfold tryParse
  rw [found]
  refine ⟨_, rfl, fun failure refused => ?_⟩
  exact (Ends.bind read fun bucket _ => formatter.valueOf_orOfText bucket).of_error refused

theorem PeriodFormatter.tryParse_reads {formatter : PeriodFormatter}
    (parser : formatter.parser?.isSome) (text : String) : Reads (formatter.tryParse text) := by
  obtain ⟨tree, found⟩ := Option.isSome_iff_exists.mp parser
  have read := parseWhole_orOfText tree.elements formatter.parseSettings text.toList "Period"
  unfold tryParse
  rw [found]
  refine ⟨_, rfl, fun failure refused => ?_⟩
  exact (Ends.bind read fun bucket _ => bucket.toPeriod_orOfText _).of_error refused

theorem Reads.failureAsError {Value : Type} {outcome : Except FormatError (Except Failure Value)}
    (reads : Reads outcome) {error : FormatError}
    (refused : outcome >>= ChronoText.failureAsError = .error error) : error.IsOfText := by
  obtain ⟨result, rfl, ofText⟩ := reads
  cases result with
  | ok value => cases refused
  | error failure =>
      cases refused
      exact FormatError.isOfText_ofFailure (ofText failure rfl)

theorem DateTimeFormatter.parseLocal_error {formatter : DateTimeFormatter}
    (parser : formatter.parser?.isSome) {text : String} {error : FormatError}
    (refused : formatter.parseLocal text = .error error) : error.IsOfText := by
  obtain ⟨tree, found⟩ := Option.isSome_iff_exists.mp parser
  have read := parseWhole_orOfText tree.elements formatter.parseSettings text.toList
    "LocalDateTime"
  unfold parseLocal at refused
  rw [found] at refused
  exact FormatError.isOfText_failureAsError
    (Ends.bind read fun bucket _ => bucket.toLocal_orOfText) refused

namespace FormatError

/-- Patterns are refused with errors of patterns and texts with errors of texts, arguments of builders
with neither, and each failure has as many parameters as its wording has holes, so that the message is
the wording with each hole filled by its own parameter. -/
theorem classes_apart :
    (∀ (builder : DateTimeBuilder) (culture : Culture) (pattern : String) (error : FormatError),
      builder.appendPattern culture pattern = .error error → error.IsOfPattern) ∧
    (∀ (formatter : DateTimeFormatter) (text : String), formatter.parser?.isSome →
      Reads (formatter.tryParse text) ∧
      (∀ error, formatter.parse text = .error error → error.IsOfText) ∧
      ∀ error, formatter.parseLocal text = .error error → error.IsOfText) ∧
    (∀ (formatter : PeriodFormatter) (text : String), formatter.parser?.isSome →
      Reads (formatter.tryParse text) ∧
      ∀ error, formatter.parse text = .error error → error.IsOfText) ∧
    (∀ (builder : DateTimeBuilder) (error : FormatError),
      (∀ operation, builder.perform operation = .error error →
        error.IsOfPattern ∨ error.IsOfArgument) ∧
      ∀ formatter, builder.appendFormatter formatter = .error error → error.IsOfArgument) ∧
    (∀ (builder : PeriodBuilder) (error : FormatError),
      (∀ operation, builder.perform operation = .error error → error.IsOfArgument) ∧
      ∀ formatter, builder.appendFormatter formatter = .error error → error.IsOfArgument) ∧
    ∀ failure : Failure, failure.IsComplete → failure.IsWorded := by
  refine ⟨?_, ?_, ?_, ?_, ?_, ?_⟩
  · intro builder culture pattern error refused
    exact DateTimeBuilder.appendPattern_error refused
  · intro formatter text parser
    have reads := DateTimeFormatter.tryParse_reads parser text
    exact ⟨reads, fun error refused => reads.failureAsError refused,
      fun error refused => DateTimeFormatter.parseLocal_error parser refused⟩
  · intro formatter text parser
    have reads := PeriodFormatter.tryParse_reads parser text
    exact ⟨reads, fun error refused => reads.failureAsError refused⟩
  · intro builder error
    exact ⟨fun operation refused => DateTimeBuilder.perform_error refused,
      fun formatter refused => DateTimeBuilder.appendFormatter_error refused⟩
  · intro builder error
    exact ⟨fun operation refused => (builder.perform_orOfArgument operation).of_error refused,
      fun formatter refused => (builder.appendFormatter_orOfArgument formatter).of_error refused⟩
  · intro failure complete
    exact complete.isWorded

/-- A format that wants a text which looks like a hole. -/
def bracedFormatter : PeriodFormatter where
  printer? := none
  parser? := some ⟨0, [.literal ⟨.given, "\x7b0\x7d"⟩]⟩

/-- Braces in a pattern and in what is wanted of a text stay as they are. -/
theorem classes_apart_braces :
    ∃ ofPattern ofText ofArgument : FormatError,
      DateTimeBuilder.appendPattern {} .invariant "\x7b" = .error ofPattern ∧
      ofPattern.IsOfPattern ∧
      ofPattern.message = "The standard format \"\x7b\" is not valid." ∧
      bracedFormatter.parse "?" = .error ofText ∧
      ofText.IsOfText ∧
      ofText.message =
        "The value string does not match a quoted string \"\x7b0\x7d\" in the pattern." ∧
      PeriodBuilder.perform {} (.leading "") = .error ofArgument ∧
      ofArgument.IsOfArgument ∧
      ofArgument.message = "The argument \"text\" cannot be empty." := by
  refine ⟨_, _, _, rfl, ?_, rfl, rfl, ?_, rfl, rfl, ?_, rfl⟩
  · exact classes_apart.1 {} .invariant "\x7b" _ rfl
  · exact (classes_apart.2.2.1 bracedFormatter "?" rfl).2 _ rfl
  · exact (classes_apart.2.2.2.2.1 {} _).1 (.leading "") rfl

end FormatError

end ChronoText
