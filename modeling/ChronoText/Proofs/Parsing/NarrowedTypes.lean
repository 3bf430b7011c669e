import ChronoText.Proofs.Parsing.Faithful
import ChronoText.Proofs.Parsing.SuffixedUnits

/-! Reading for a type of period that does not know all units. A unit that is told by the affix behind
its number is looked for whatever the type is, so reading for a type goes the same way as reading for
all units, until a number that is not zero is to be stored for a unit that the type does not know. There
it is refused, and reading for all units leaves an amount that the type does not know either. -/

set_option autoImplicit false

namespace ChronoText

/-- The settings with another type of period. -/
def ParseSettings.narrowed (settings : ParseSettings) (type : PeriodType) : ParseSettings :=
  { settings with periodType := type }

/-- The type knows all units that are not zero. -/
def Bucket.KnownTo (bucket : Bucket) (type : PeriodType) : Prop :=
  ∀ unit, bucket.amount unit ≠ 0 → type.supports unit = true

namespace Bucket

variable {bucket : Bucket} {type : PeriodType}

theorem amount_setPeriodField (bucket : Bucket) (unit other : PeriodField) (value : Int32) :
    (bucket.setPeriodField unit value).amount other =
      if other = unit then value else bucket.amount other := by
  unfold amount
  rw [periodFields_setPeriodField]
  split <;> rfl

theorem KnownTo.setPeriodField (known : bucket.KnownTo type) {unit : PeriodField} {value : Int32}
    (own : value ≠ 0 → type.supports unit = true) : (bucket.setPeriodField unit value).KnownTo type := by
  intro other some
  rw [amount_setPeriodField] at some
  split at some
  · next same => exact same ▸ own some
  · exact known other some

end Bucket

/-! ## Affixes that were found -/

namespace Affix

variable {affix : Affix} {characters : Nat}

theorem isSome_form?_of_distance? {text : List Char} (found : affix.distance? text = some characters) :
    (affix.form? (text.drop characters)).isSome = true := by
  induction text generalizing characters with
  | nil => cases found
  | cons c rest ih =>
      rw [distance?] at found
      split at found
      · next starts =>
          cases found
          rw [form?, List.find?_isSome]
          exact List.any_eq_true.mp starts
      · split at found
        · obtain ⟨more, later, rfl⟩ := Option.map_eq_some_iff.mp found
          exact ih later
        · cases found

theorem exists_skip?_of_distance? {cursor : Cursor}
    (found : affix.distance? cursor.rest = some characters) :
    ∃ next, affix.skip? (cursor.advance characters) = some next := by
  obtain ⟨form, taken⟩ := Option.isSome_iff_exists.mp (isSome_form?_of_distance? found)
  rw [skip?_eq_form?, Cursor.rest_advance, taken]
  exact ⟨_, rfl⟩

end Affix

namespace NumberField

variable {number : NumberField} {unit : PeriodField} {affix : Affix} {type : PeriodType}
  {bucket : Bucket}

/-! ## Storing -/

theorem storeUnit_cases (type : PeriodType) (bucket : Bucket) (unit : PeriodField) (value : Int32) :
    (storeUnit type bucket unit value = .ok (bucket.setPeriodField unit value) ∧
      (value ≠ 0 → type.supports unit = true)) ∨
    (storeUnit type bucket unit value = .error (Bucket.unsupportedField unit type) ∧
      value ≠ 0 ∧ type.supports unit = false) := by
  unfold storeUnit
  by_cases refused : value ≠ 0 ∧ type.supports unit = false
  · rw [if_pos refused]
    exact .inr ⟨rfl, refused⟩
  · rw [if_neg refused]
    refine .inl ⟨rfl, fun some => ?_⟩
    by_contra unknown
    exact refused ⟨some, Bool.eq_false_of_not_eq_true unknown⟩

theorem storeUnit_standard (bucket : Bucket) (unit : PeriodField) (value : Int32) :
    storeUnit .standard bucket unit value = .ok (bucket.setPeriodField unit value) :=
  if_neg fun refused => absurd refused.2 (by cases unit <;> decide)

/-- What storing for a type makes of what storing for all units makes: the same, which leaves only
units that the type knows; or a refusal, where a unit that it does not know is stored. -/
inductive StoresNarrowed (type : PeriodType) (units : PeriodField → Prop) :
    Except (Failure × Bucket) Bucket → Except (Failure × Bucket) Bucket → Prop where
  | same {after} : after.KnownTo type → StoresNarrowed type units (.ok after) (.ok after)
  | refused {after stored unit} :
      units unit → after.amount unit ≠ 0 → type.supports unit = false →
      StoresNarrowed type units (.ok after) (.error (Bucket.unsupportedField unit type, stored))
  | failed {error other} : StoresNarrowed type units (.error error) (.error other)

theorem store_narrowed (selector : number.selector = .period unit) (known : bucket.KnownTo type)
    {numeral : Numeral} (apart : numeral.millis?.isSome = true → unit ≠ .millis) :
    StoresNarrowed type (fun other => other = unit ∨ numeral.millis?.isSome = true ∧ other = .millis)
      (number.store .standard numeral bucket) (number.store type numeral bucket) := by
  unfold store
  simp only [selector, bind, Except.bind, pure, Except.pure, throw, throwThe, MonadExceptOf.throw]
  split
  · exact .failed
  · rw [storeUnit_standard]
    obtain ⟨stored, own⟩ | ⟨refused, some, unknown⟩ :=
      storeUnit_cases type bucket unit (.ofInt numeral.value)
    · have knownUnit := known.setPeriodField own
      rw [stored]
      cases fraction : numeral.millis? with
      | none => exact .same knownUnit
      | some millis =>
          simp only [Except.mapError, storeUnit_standard]
          obtain ⟨stored, own⟩ | ⟨refused, some, unknown⟩ :=
            storeUnit_cases type (bucket.setPeriodField unit (.ofInt numeral.value)) .millis
              (.ofInt (if numeral.negative then -millis else millis))
          · rw [stored]
            exact .same (knownUnit.setPeriodField own)
          · rw [refused]
            refine .refused (.inr ⟨rfl, rfl⟩) ?_ unknown
            rwa [Bucket.amount_setPeriodField, if_pos rfl]
    · rw [refused]
      cases fraction : numeral.millis? with
      | none =>
          refine .refused (.inl rfl) ?_ unknown
          rwa [Bucket.amount_setPeriodField, if_pos rfl]
      | some millis =>
          simp only [Except.mapError, storeUnit_standard]
          refine .refused (.inl rfl) ?_ unknown
          rwa [Bucket.amount_setPeriodField, if_neg (apart (by rw [fraction]; rfl)),
            Bucket.amount_setPeriodField, if_pos rfl]

/-! ## Reading -/

variable {settings : ParseSettings} {start : Cursor}

/-- Whether a unit with an affix behind its number is there, and where its number ends, does not depend
on the type that is read for; what is stored does. -/
theorem read_suffixed_narrowed (suffixed : number.IsSuffixed unit affix) (settings : ParseSettings)
    (start : Cursor) (bucket : Bucket) :
    (∃ interruption, ∀ type,
      number.read (settings.narrowed type) start bucket = .error interruption) ∨
    ∃ numeral next, start.rest ≠ [] ∧
      (number.optionalMillis = false → numeral.millis? = none) ∧
      ∀ type, number.read (settings.narrowed type) start bucket =
        match number.store type numeral bucket with
        | .ok after => .ok (next, after)
        | .error (failure, stored) => .error (.failed ⟨start.position, failure⟩ stored) := by
  have optional : number.isRequired = false := by
    simp [isRequired, suffixed.selector, FieldSelector.periodField?, suffixed.optional]
  by_cases given : start.rest = []
  · refine .inl ⟨.absent, fun type => ?_⟩
    unfold NumberField.read
    simp only [given, optional, if_true, bind, Except.bind, throw, throwThe, MonadExceptOf.throw,
      Bool.false_eq_true, if_false]
  · unfold NumberField.read
    simp only [given, suffixed.leading, suffixed.trailing, suffixed.selector, optional, bind,
      Except.bind, pure, Except.pure, throw, throwThe, MonadExceptOf.throw, Option.isSome_some,
      Bool.or_true, Bool.not_true, Bool.false_and, Bool.false_eq_true, if_false,
      ParseSettings.narrowed]
    cases found : affix.distance? start.rest with
    | none => exact .inl ⟨.absent, fun _ => rfl⟩
    | some characters =>
        cases numeralRead : number.readNumeral settings.culture true (some characters) start with
        | error fault? =>
            cases fault? with
            | none =>
                refine .inl ⟨.absent, fun _ => ?_⟩
                simp only [numeralRead, Except.mapError]
            | some fault =>
                refine .inl ⟨.failed fault bucket, fun _ => ?_⟩
                simp only [numeralRead, Except.mapError]
        | ok numeral =>
            by_cases length : characters = numeral.length
            · subst length
              obtain ⟨next, skipped⟩ := Affix.exists_skip?_of_distance? found
              refine .inr ⟨numeral, next, given, (readNumeral_eq_ok numeralRead).2, fun type => ?_⟩
              simp only [numeralRead, Except.mapError, ne_eq, not_true_eq_false, if_false]
              cases number.store type numeral bucket with
              | error error => rfl
              | ok after => simp only [skipped]
            · refine .inl ⟨.absent, fun _ => ?_⟩
              simp only [numeralRead, Except.mapError, ne_eq, length, not_false_eq_true, if_true]

end NumberField

/-! ## Reading of elements -/

/-- What reading for a type makes of what reading for all units makes, where both start at a cursor:
the same, which leaves only units that the type knows; a refusal at a place before the end of the text,
where the other leaves a unit that the type does not know; or a failure of both. -/
inductive Narrows (type : PeriodType) (entries : Bucket.Entry → Prop) (start : Cursor) :
    ParseOutcome × ParseState → ParseOutcome × ParseState → Prop where
  | same {next after} :
      after.KnownTo type →
      Narrows type entries start (.advanced next, ⟨after, none⟩) (.advanced next, ⟨after, none⟩)
  | refused {next after place stored unit} :
      entries (.unit unit) → after.bucket.amount unit ≠ 0 → type.supports unit = false →
      start.Reaches place → place.rest ≠ [] →
      Narrows type entries start (.advanced next, after)
        (.failedAt place.position,
          ⟨stored, some ((Bucket.unsupportedField unit type).located place.position)⟩)
  | failed {position state other after} :
      Narrows type entries start (.failedAt position, state) (.failedAt other, after)

theorem Narrows.behind {type : PeriodType} {entries more : Bucket.Entry → Prop}
    {start middle : Cursor} {whole part : ParseOutcome × ParseState}
    (narrows : Narrows type entries middle whole part) (reached : start.Reaches middle)
    (among : ∀ entry, entries entry → more entry) : Narrows type more start whole part := by
  cases narrows with
  | same known => exact .same known
  | refused own some unknown reaches given =>
      exact .refused (among _ own) some unknown (reached.trans reaches) given
  | failed => exact .failed

theorem NumberField.parse_narrows {number : NumberField} {unit : PeriodField} {affix : Affix}
    (suffixed : number.IsSuffixed unit affix) (apart : number.optionalMillis = true → unit ≠ .millis)
    {type : PeriodType} {bucket : Bucket} (known : bucket.KnownTo type) (settings : ParseSettings)
    (cursor : Cursor) :
    Narrows type (fun entry => (Element.number number).stores entry) cursor
      (number.parse (settings.narrowed .standard) cursor ⟨bucket, none⟩)
      (number.parse (settings.narrowed type) cursor ⟨bucket, none⟩) := by
  unfold NumberField.parse
  obtain ⟨interruption, read⟩ | ⟨numeral, next, given, whole, read⟩ :=
    read_suffixed_narrowed suffixed settings cursor bucket
  · rw [read, read]
    cases interruption with
    | absent => exact .same known
    | failed fault stored => exact .failed
  · have optional : numeral.millis?.isSome = true → number.optionalMillis = true := by
      intro some
      by_contra plain
      rw [whole (Bool.eq_false_of_not_eq_true plain)] at some
      cases some
    have stores := store_narrowed suffixed.selector known fun some => apart (optional some)
    rw [read, read]
    generalize number.store .standard numeral bucket = whole at stores
    generalize number.store type numeral bucket = part at stores
    cases stores with
    | same later => exact .same later
    | failed => exact .failed
    | refused own some unknown =>
        refine .refused ?_ some unknown (.refl cursor) given
        rcases own with rfl | ⟨fraction, rfl⟩
        · exact .inl (by rw [suffixed.selector]; rfl)
        · exact .inr ⟨optional fraction, rfl⟩

namespace Element

/-- The element is a unit that is told by the affix behind its number, or text. -/
inductive IsSuffixedOrText : Element → Prop where
  | number {number unit affix} :
      number.IsSuffixed unit affix → (number.optionalMillis = true → unit ≠ .millis) →
      IsSuffixedOrText (.number number)
  | literal {literal} : IsSuffixedOrText (.literal literal)
  | separator {between} : IsSuffixedOrText (.separator between)

/-- The elements store under no entry in common. -/
def StoreApart (first second : Element) : Prop :=
  ∀ entry, first.stores entry → ¬ second.stores entry

theorem exists_mem_of_anyStores {entry : Bucket.Entry} {elements : List Element}
    (stored : anyStores entry elements) : ∃ element ∈ elements, element.stores entry := by
  induction elements with
  | nil => exact stored.elim
  | cons element rest ih =>
      rcases stored with own | later
      · exact ⟨element, List.mem_cons_self, own⟩
      · obtain ⟨other, member, own⟩ := ih later
        exact ⟨other, List.mem_cons_of_mem _ member, own⟩

theorem parse_narrows {element : Element} (part : element.IsSuffixedOrText)
    (plain : ¬ IsSeparator element) {type : PeriodType} {bucket : Bucket}
    (known : bucket.KnownTo type) (settings : ParseSettings) (cursor : Cursor) :
    Narrows type (fun entry => element.stores entry) cursor
      (parse (settings.narrowed .standard) cursor ⟨bucket, none⟩ element)
      (parse (settings.narrowed type) cursor ⟨bucket, none⟩ element) := by
  cases part with
  | number suffixed apart => exact NumberField.parse_narrows suffixed apart known settings cursor
  | separator => exact absurd ⟨_, rfl⟩ plain
  | @literal text =>
      have same (type : PeriodType) :
          text.read (settings.narrowed type) cursor = text.read settings cursor := rfl
      rw [parse, parse, same, same]
      cases text.read settings cursor with
      | ok next => exact .same known
      | error fault => exact .failed

/-- A refusal stays one whatever follows, as no other element stores the unit again. -/
theorem parseFrom_narrows {type : PeriodType} (settings : ParseSettings) {elements : List Element}
    (parts : ∀ element ∈ elements, element.IsSuffixedOrText) (apart : elements.Pairwise StoreApart)
    (segment : Nat) (passed : List PassedSeparator) (cursor : Cursor) {bucket : Bucket}
    (known : bucket.KnownTo type) :
    Narrows type (fun entry => anyStores entry elements) cursor
      (parseFrom (settings.narrowed .standard) segment passed cursor ⟨bucket, none⟩ elements)
      (parseFrom (settings.narrowed type) segment passed cursor ⟨bucket, none⟩ elements) := by
  induction elements generalizing segment passed cursor bucket with
  | nil =>
      rw [parseFrom, parseFrom, finish]
      split
      · exact .failed
      · exact .same known
  | cons element rest ih =>
      obtain ⟨own, others⟩ := List.forall_mem_cons.mp parts
      obtain ⟨ownApart, othersApart⟩ := List.pairwise_cons.mp apart
      have inRest : ∀ entry, anyStores entry rest → anyStores entry (element :: rest) :=
        fun _ => .inr
      by_cases separator : IsSeparator element
      · obtain ⟨between, rfl⟩ := separator
        rw [parseFrom_separator, parseFrom_separator]
        exact (ih others othersApart _ _ _ known).behind
          (passSeparator_reaches between segment cursor).1 inRest
      · have head := parse_narrows own separator known settings cursor
        have reports := parse_reports (settings.narrowed .standard) cursor
          (rfl : (ParseState.mk bucket none).failure? = none) element fun _ stored => stored
        rcases whole : parse (settings.narrowed .standard) cursor ⟨bucket, none⟩ element
          with ⟨wholeOutcome, state⟩
        rcases part : parse (settings.narrowed type) cursor ⟨bucket, none⟩ element
          with ⟨partOutcome, refused⟩
        rw [whole, part] at head
        rw [whole] at reports
        cases head with
        | same later =>
            cases reports with
            | advanced reached _ =>
                rw [parseFrom_element separator whole, parseFrom_element separator part]
                exact (ih others othersApart segment passed _ later).behind reached inRest
        | @refused next _ place stored unit own some unknown reaches given =>
            rw [parseFrom_element separator whole, parseFrom_failed separator part]
            cases behind : parseFrom (settings.narrowed .standard) segment passed next state rest with
            | mk outcome final =>
                cases outcome with
                | failedAt position => exact .failed
                | advanced finish =>
                    cases reports with
                    | advanced _ _ =>
                        obtain ⟨_, _, changes⟩ := parseFrom_advanced (fun _ stored => stored) rfl behind
                        have unstored : ¬ anyStores (.unit unit) rest := by
                          intro again
                          obtain ⟨other, member, stored⟩ := exists_mem_of_anyStores again
                          exact ownApart other member _ own stored
                        have amount := changes (.unit unit) unstored
                        refine .refused (.inl own) ?_ unknown reaches given
                        rwa [Bucket.amount, amount]
        | failed =>
            rw [parseFrom_failed separator whole, parseFrom_failed separator part]
            exact .failed

end Element

end ChronoText
