import ChronoText.Proofs.Formatter.SoundBuilders

/-! Sessions with a builder of period formats. A session works on one builder, which its calls change
in place, statement after statement. What a call has changed by the time it is refused is not taken
back, so that an edit could well leave a builder half changed. None does: a call either puts the
builder in place that the operation returns, or it is refused and nothing has happened. -/

set_option autoImplicit false

namespace ChronoText

/-! ## Edits -/

/-- Statements that change a builder in place, up to the first one that is refused. -/
abbrev Edit := ExceptT FormatError (StateM PeriodBuilder)

namespace Edit

def requireText (name text : String) : Edit Unit :=
  if text = "" then throw (.emptyArgument name) else pure ()

def requireNothingWaiting : Edit Unit := do
  if (← get).waiting?.isSome then throw Misuse.prefixWithoutField.error else pure ()

def append (element : Element) : Edit Unit :=
  modify (·.append element)

/-- The number of a unit. It takes the affix that waits from the builder. -/
def number (unit : PeriodField) : Edit NumberField := do
  let builder ← get
  set { builder with waiting? := none }
  pure (builder.number unit)

def appendUnit (unit : PeriodField) : Edit Unit := do
  append (.number (← number unit))

def appendSecondsWithOptionalMillis : Edit Unit := do
  append (.number { ← number .seconds with optionalMillis := true })

def setLeading (affix : Affix) : Edit Unit := do
  if (← get).waiting?.isSome then throw Misuse.secondPrefix.error
  else
    match (← get).elements.getLast? with
    | some (.literal _) => throw Misuse.prefixAfterLiteral.error
    | _ => modify fun builder => { builder with waiting? := some affix }

def setTrailing (affix : Affix) : Edit Unit := do
  requireNothingWaiting
  match (← get).elements.getLast? with
  | some (.number number) =>
    if number.trailing.isSome then throw Misuse.secondSuffix.error
    else modify (·.replaceLast (.number { number with trailing := some affix }))
  | _ => throw Misuse.suffixWithoutField.error

def appendLiteral (text : String) : Edit Unit := do
  requireText "text" text
  requireNothingWaiting
  append (.literal ⟨.given, text⟩)

def addSeparator (between : Separator) : Edit Unit := do
  requireText "text" between.text
  requireNothingWaiting
  match (← get).elements.getLast? with
  | some (.separator _) => throw Misuse.adjacentSeparators.error
  | none => if between.mode.needsBefore then pure () else append (.separator between)
  | some _ => append (.separator between)

def appendFormatter (formatter : PeriodFormatter) : Edit Unit := do
  requireNothingWaiting
  match formatter.printer?.or formatter.parser? with
  | some tree => append (.composite tree.elements)
  | none => throw Misuse.nothingToAppend.error

def perform : PeriodBuilder.Operation → Edit Unit
  | .zeroPolicy policy => modify fun builder => { builder with zeroPolicy := policy }
  | .minPrintedDigits digits => modify fun builder => { builder with minPrintedDigits := digits }
  | .maxParsedDigits digits => modify fun builder => { builder with maxParsedDigits := digits }
  | .rejectSigned reject => modify fun builder => { builder with rejectSigned := reject }
  | .unit unit => appendUnit unit
  | .secondsWithOptionalMillis => appendSecondsWithOptionalMillis
  | .leading text => do
    requireText "text" text
    setLeading (.simple text)
  | .pluralLeading one many => do
    requireText "singular" one
    requireText "plural" many
    setLeading (.plural one many)
  | .trailing text => do
    requireText "text" text
    setTrailing (.simple text)
  | .pluralTrailing one many => do
    requireText "singular" one
    requireText "plural" many
    setTrailing (.plural one many)
  | .literal text => appendLiteral text
  | .separator text => addSeparator ⟨text, text, .always⟩
  | .separatorWithFinal text finalText => do
    requireText "final_text" finalText
    addSeparator ⟨text, finalText, .always⟩
  | .separatorIfFieldsAfter text => addSeparator ⟨text, text, .ifFieldsAfter⟩
  | .separatorIfFieldsBefore text => addSeparator ⟨text, text, .ifFieldsBefore⟩

/-- The tree of the elements so far. The builder stays as it is. -/
def tree (handle : Nat) : Edit FormatTree := do
  requireNothingWaiting
  pure ⟨handle, (← get).finishedElements⟩

def formatter (handle : Nat) : Edit PeriodFormatter := do
  let tree ← tree handle
  pure { printer? := some tree, parser? := some tree }

end Edit

/-! ## Calls -/

namespace PeriodBuilder

/-- What can be called on a builder, apart from asking how many elements there are. -/
inductive Call where
  | clear
  | operation (operation : Operation)
  | append (formatter : PeriodFormatter)
  /-- A printer or a parser is wanted, either of which holds the tree. -/
  | tree (handle : Nat)
  | formatter (handle : Nat)

/-- A formatter that is appended has the trees that builders made. -/
def Call.BringsBuilt : Call → Prop
  | .append added =>
    (∀ tree ∈ added.printer?, tree.IsBuilt) ∧ ∀ tree ∈ added.parser?, tree.IsBuilt
  | .clear | .operation _ | .tree _ | .formatter _ => True

def Call.edit : Call → Edit Unit
  | .clear => set ({} : PeriodBuilder)
  | .operation step => Edit.perform step
  | .append added => Edit.appendFormatter added
  | .tree handle => do
    let _ ← Edit.tree handle
  | .formatter handle => do
    let _ ← Edit.formatter handle

/-- The builder that a call on this one makes. -/
def call (builder : PeriodBuilder) : Call → Except FormatError PeriodBuilder
  | .clear => pure {}
  | .operation operation => builder.perform operation
  | .append formatter => builder.appendFormatter formatter
  | .tree handle => do
    let _ ← builder.tree handle
    pure builder
  | .formatter handle => do
    let _ ← builder.formatter handle
    pure builder

/-- The result of an edit and what it makes of the builder. -/
def after {Value : Type} (builder : PeriodBuilder) (edit : Edit Value) :
    Except FormatError Value × PeriodBuilder :=
  edit.run.run builder

theorem after_get_bind {Value : Type} (builder : PeriodBuilder)
    (rest : PeriodBuilder → Edit Value) :
    builder.after (get >>= rest) = builder.after (rest builder) := rfl

/-- The builder that an operation returns takes the place of the old one; without one the old one
stays. -/
def settle (builder : PeriodBuilder) :
    Except FormatError PeriodBuilder → Except FormatError Unit × PeriodBuilder
  | .ok next => (.ok (), next)
  | .error error => (.error error, builder)

end PeriodBuilder

/-! ## Edits and the operations they perform -/

namespace Edit

/-- The edit does in place what the operation does by returning a builder. -/
def Performs (edit : Edit Unit) (operation : PeriodBuilder → Except FormatError PeriodBuilder) :
    Prop :=
  ∀ builder : PeriodBuilder, builder.after edit = builder.settle (operation builder)

variable {edit : Edit Unit} {operation : PeriodBuilder → Except FormatError PeriodBuilder}

theorem Performs.requireText {name text : String} (performs : edit.Performs operation) :
    Performs (do requireText name text; edit)
      (fun builder => do PeriodBuilder.requireText name text; operation builder) := by
  intro builder
  unfold Edit.requireText PeriodBuilder.requireText
  by_cases given : text = ""
  · simp only [if_pos given]
    rfl
  · simp only [if_neg given]
    exact performs builder

theorem Performs.requireNothingWaiting (performs : edit.Performs operation) :
    Performs (do requireNothingWaiting; edit)
      (fun builder => do builder.requireNothingWaiting; operation builder) := by
  intro builder
  unfold Edit.requireNothingWaiting PeriodBuilder.requireNothingWaiting
  rw [bind_assoc, PeriodBuilder.after_get_bind]
  by_cases waits : builder.waiting?.isSome
  · simp only [if_pos waits]
    rfl
  · simp only [if_neg waits]
    exact performs builder

/-- An edit that only asks for something leaves the builder as it is. -/
theorem Performs.asking {Value : Type} {asked : Edit Value}
    {answer : PeriodBuilder → Except FormatError Value}
    (answers : ∀ builder : PeriodBuilder, builder.after asked = (answer builder, builder)) :
    Performs (do let _ ← asked) (fun builder => do let _ ← answer builder; pure builder) := by
  intro builder
  have ran : asked.run.run builder = (answer builder, builder) := answers builder
  unfold PeriodBuilder.after
  rw [ExceptT.run_bind, StateT.run_bind, ran]
  dsimp only
  cases answer builder <;> rfl

theorem setLeading_performs (affix : Affix) : (setLeading affix).Performs (·.setLeading affix) := by
  intro builder
  simp only [setLeading, PeriodBuilder.setLeading]
  rw [PeriodBuilder.after_get_bind]
  by_cases waits : builder.waiting?.isSome
  · simp only [if_pos waits]
    rfl
  · simp only [if_neg waits]
    rw [PeriodBuilder.after_get_bind]
    cases builder.elements.getLast? with
    | none => rfl
    | some last => cases last <;> rfl

theorem setTrailing_performs (affix : Affix) :
    (setTrailing affix).Performs (·.setTrailing affix) := by
  refine .requireNothingWaiting fun builder => ?_
  rw [PeriodBuilder.after_get_bind]
  cases builder.elements.getLast? with
  | none => rfl
  | some last =>
      cases last with
      | number number =>
          dsimp only
          cases number.trailing.isSome <;> rfl
      | _ => rfl

theorem appendLiteral_performs (text : String) :
    (appendLiteral text).Performs (·.appendLiteral text) :=
  .requireText (.requireNothingWaiting fun _ => rfl)

theorem addSeparator_performs (between : Separator) :
    (addSeparator between).Performs (·.addSeparator between) := by
  refine .requireText (.requireNothingWaiting fun builder => ?_)
  rw [PeriodBuilder.after_get_bind]
  cases builder.elements.getLast? with
  | none =>
      dsimp only
      cases between.mode.needsBefore <;> rfl
  | some last => cases last <;> rfl

theorem appendFormatter_performs (formatter : PeriodFormatter) :
    (appendFormatter formatter).Performs (·.appendFormatter formatter) := by
  refine .requireNothingWaiting fun builder => ?_
  cases formatter.printer?.or formatter.parser? <;> rfl

theorem perform_performs (operation : PeriodBuilder.Operation) :
    (perform operation).Performs (·.perform operation) := by
  cases operation with
  | zeroPolicy | minPrintedDigits | maxParsedDigits | rejectSigned | unit
  | secondsWithOptionalMillis => exact fun _ => rfl
  | leading => exact .requireText (setLeading_performs _)
  | pluralLeading => exact .requireText (.requireText (setLeading_performs _))
  | trailing => exact .requireText (setTrailing_performs _)
  | pluralTrailing => exact .requireText (.requireText (setTrailing_performs _))
  | literal text => exact appendLiteral_performs text
  | separator | separatorIfFieldsAfter | separatorIfFieldsBefore => exact addSeparator_performs _
  | separatorWithFinal => exact .requireText (addSeparator_performs _)

theorem tree_after (handle : Nat) (builder : PeriodBuilder) :
    builder.after (tree handle) = (builder.tree handle, builder) := by
  simp only [tree, PeriodBuilder.tree, requireNothingWaiting, PeriodBuilder.requireNothingWaiting]
  rw [bind_assoc, PeriodBuilder.after_get_bind]
  cases builder.waiting?.isSome <;> rfl

theorem formatter_after (handle : Nat) (builder : PeriodBuilder) :
    builder.after (formatter handle) = (builder.formatter handle, builder) := by
  simp only [formatter, PeriodBuilder.formatter, tree, PeriodBuilder.tree, requireNothingWaiting,
    PeriodBuilder.requireNothingWaiting]
  rw [bind_assoc, bind_assoc, PeriodBuilder.after_get_bind]
  cases builder.waiting?.isSome <;> rfl

end Edit

namespace PeriodBuilder

/-- Whatever is called, the edit does what the call says. -/
theorem Call.edit_performs (call : Call) : call.edit.Performs (·.call call) := by
  cases call with
  | clear => exact fun _ => rfl
  | operation step => exact Edit.perform_performs step
  | append added => exact Edit.appendFormatter_performs added
  | tree handle => exact .asking (Edit.tree_after handle)
  | formatter handle => exact .asking (Edit.formatter_after handle)

/-! ## Sessions -/

/-- The builder after calls in turn. A session goes on when a call is refused. -/
def session (builder : PeriodBuilder) (calls : List Call) : PeriodBuilder :=
  calls.foldl (fun builder call => (builder.after call.edit).2) builder

/-- The calls of a session that are not refused. -/
def accepted (builder : PeriodBuilder) : List Call → List Call
  | [] => []
  | call :: calls =>
    match builder.after call.edit with
    | (.ok _, next) => call :: accepted next calls
    | (.error _, next) => accepted next calls

variable {builder next : PeriodBuilder} {call : Call}

theorem after_of_ok (made : builder.call call = .ok next) :
    builder.after call.edit = (.ok (), next) :=
  (call.edit_performs builder).trans (congrArg builder.settle made)

theorem after_of_error {error : FormatError} (refused : builder.call call = .error error) :
    builder.after call.edit = (.error error, builder) :=
  (call.edit_performs builder).trans (congrArg builder.settle refused)

theorem session_cons_of_ok (made : builder.call call = .ok next) (calls : List Call) :
    builder.session (call :: calls) = next.session calls := by
  rw [session, List.foldl_cons, after_of_ok made]
  rfl

theorem session_cons_of_error {error : FormatError} (refused : builder.call call = .error error)
    (calls : List Call) : builder.session (call :: calls) = builder.session calls := by
  rw [session, List.foldl_cons, after_of_error refused]
  rfl

theorem accepted_cons_of_ok (made : builder.call call = .ok next) (calls : List Call) :
    builder.accepted (call :: calls) = call :: next.accepted calls := by
  rw [accepted, after_of_ok made]

theorem accepted_cons_of_error {error : FormatError} (refused : builder.call call = .error error)
    (calls : List Call) : builder.accepted (call :: calls) = builder.accepted calls := by
  rw [accepted, after_of_error refused]

/-- Without the calls that were refused a session ends with the same builder. -/
theorem session_of_accepted (builder : PeriodBuilder) (calls : List Call) :
    builder.session (builder.accepted calls) = builder.session calls := by
  induction calls generalizing builder with
  | nil => rfl
  | cons call calls ih =>
      cases result : builder.call call with
      | error error =>
          rw [accepted_cons_of_error result, session_cons_of_error result]
          exact ih builder
      | ok next =>
          rw [accepted_cons_of_ok result, session_cons_of_ok result, session_cons_of_ok result]
          exact ih next

/-- Nor is any of the other calls refused then. -/
theorem accepted_of_accepted (builder : PeriodBuilder) (calls : List Call) :
    builder.accepted (builder.accepted calls) = builder.accepted calls := by
  induction calls generalizing builder with
  | nil => rfl
  | cons call calls ih =>
      cases result : builder.call call with
      | error error =>
          rw [accepted_cons_of_error result]
          exact ih builder
      | ok next =>
          rw [accepted_cons_of_ok result, accepted_cons_of_ok result, ih next]

theorem Reachable.called (reachable : builder.Reachable) (built : call.BringsBuilt)
    (made : builder.call call = .ok next) : next.Reachable := by
  cases call with
  | clear =>
      cases made
      exact .new
  | operation step => exact .operation reachable made
  | append added =>
      obtain ⟨_, tree, given, _⟩ := appendFormatter_ok made
      refine .formatter reachable ?_ given made
      rcases Option.or_eq_some_iff.mp given with printer | ⟨_, parser⟩
      · exact built.1 tree printer
      · exact built.2 tree parser
  | tree handle | formatter handle =>
      obtain ⟨_, _, made⟩ := bind_ok made
      cases made
      exact reachable

theorem Reachable.session (reachable : builder.Reachable) {calls : List Call}
    (built : ∀ call ∈ calls, call.BringsBuilt) : (builder.session calls).Reachable := by
  induction calls generalizing builder with
  | nil => exact reachable
  | cons call calls ih =>
      obtain ⟨own, others⟩ := List.forall_mem_cons.mp built
      cases result : builder.call call with
      | error error =>
          rw [session_cons_of_error result]
          exact ih reachable others
      | ok next =>
          rw [session_cons_of_ok result]
          exact ih (reachable.called own result) others

/-! ## What sessions keep -/

/-- A finished format is refused while an affix waits, and only then. -/
structure FinishesUnlessWaiting {Value : Type} (builder : PeriodBuilder)
    (result : Except FormatError Value) : Prop where
  refused : builder.waiting?.isSome →
    ∃ error, result = .error error ∧ error.kind = .invalidOperation
  finished : builder.waiting? = none → ∃ value, result = .ok value

theorem finishesUnlessWaiting_bind {Value : Type} (builder : PeriodBuilder) (value : Value) :
    builder.FinishesUnlessWaiting (do builder.requireNothingWaiting; pure value) := by
  constructor
  · intro waits
    rw [requireNothingWaiting, if_pos waits]
    exact ⟨_, rfl, rfl⟩
  · intro free
    rw [requireNothingWaiting, if_neg (by simp [free])]
    exact ⟨_, rfl⟩

theorem tree_finishesUnlessWaiting (builder : PeriodBuilder) (handle : Nat) :
    builder.FinishesUnlessWaiting (builder.tree handle) :=
  builder.finishesUnlessWaiting_bind _

theorem formatter_finishesUnlessWaiting (builder : PeriodBuilder) (handle : Nat) :
    builder.FinishesUnlessWaiting (builder.formatter handle) := by
  unfold formatter tree
  rw [bind_assoc]
  exact builder.finishesUnlessWaiting_bind _

/-- Whatever is called on a new builder and refused, the builder is well built. A finished format
can be had from it unless an affix waits. The next call makes the builder that it says or is refused
and changes nothing, and so the calls that were refused can be left out of the session. -/
theorem session_invariants {calls : List Call} (built : ∀ call ∈ calls, call.BringsBuilt) :
    let builder := session {} calls
    builder.WellBuilt ∧
      (∀ handle, builder.FinishesUnlessWaiting (builder.tree handle) ∧
        builder.FinishesUnlessWaiting (builder.formatter handle)) ∧
      (∀ call next, builder.call call = .ok next → builder.after call.edit = (.ok (), next)) ∧
      (∀ call error, builder.call call = .error error →
        builder.after call.edit = (.error error, builder)) ∧
      session {} (accepted {} calls) = builder ∧
      accepted {} (accepted {} calls) = accepted {} calls := by
  intro builder
  have reachable : builder.Reachable := Reachable.new.session built
  refine ⟨reachable.wellBuilt, fun handle => ⟨?_, ?_⟩, fun call next => after_of_ok,
    fun call error => after_of_error, ?_, ?_⟩
  · exact builder.tree_finishesUnlessWaiting handle
  · exact builder.formatter_finishesUnlessWaiting handle
  · exact session_of_accepted {} calls
  · exact accepted_of_accepted {} calls

/-- Days and the ISO form behind them, with a separator too many in front, and with a literal, a
trailing affix and a separator that are refused where they are called. -/
def daysBeforeIso : List Call :=
  [.operation (.separator ","), .operation (.leading "~"), .operation (.literal "P"), .formatter 0,
    .operation (.unit .days), .operation (.trailing "d"), .operation (.trailing "D"),
    .operation (.separator " "), .operation (.separatorIfFieldsAfter " "),
    .append (PeriodFormatter.iso 1), .formatter 2]

theorem session_invariants_daysBeforeIso :
    (∀ call ∈ daysBeforeIso, call.BringsBuilt) ∧
      (session {} daysBeforeIso).elements.length = 3 ∧
      (accepted {} daysBeforeIso).length = 7 ∧
      (session {} daysBeforeIso).WellBuilt ∧
      session {} (accepted {} daysBeforeIso) = session {} daysBeforeIso := by
  have iso : FormatTree.IsBuilt ⟨1, PeriodFormatter.isoBuilder.finishedElements⟩ :=
    .period PeriodFormatter.isoBuilder_reachable rfl
  have built : ∀ call ∈ daysBeforeIso, call.BringsBuilt := by
    simp only [daysBeforeIso, List.forall_mem_cons]
    refine ⟨trivial, trivial, trivial, trivial, trivial, trivial, trivial, trivial, trivial, ?_,
      trivial, nofun⟩
    constructor
    · rintro _ ⟨⟩
      exact iso
    · rintro _ ⟨⟩
      exact iso
  obtain ⟨well, _, _, _, same, _⟩ := session_invariants built
  exact ⟨built, rfl, rfl, well, same⟩

end PeriodBuilder

end ChronoText
