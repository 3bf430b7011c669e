import ChronoText.Pattern.Compile
import ChronoText.Proofs.Failure.Messages

/-! The tokens of patterns as data, apart from the reader: how each is spelled, where it may stand,
and which element it stands for. The reader takes from a pattern just the tokens that may stand
there, and where it takes none it names a place inside the pattern. -/

set_option autoImplicit false

namespace ChronoText

/-- The letters that stand for fields. -/
def PatternLetter.knownLetters : List Char :=
  ['G', 'C', 'Y', 'y', 'x', 'w', 'e', 'E', 'M', 'd', 'D', 'a', 'K', 'h', 'H', 'k', 'm', 's', 'S',
    'Z']

/-- What stands for one character of a quoted run. -/
inductive QuotedUnit where
  /-- The closing quote twice. -/
  | doubled
  | escaped (c : Char)
  | plain (c : Char)
  deriving DecidableEq

namespace QuotedUnit

variable {quote : Char}

def source (quote : Char) : QuotedUnit → List Char
  | doubled => [quote, quote]
  | escaped c => [escapeCharacter, c]
  | plain c => [c]

def character (quote : Char) : QuotedUnit → Char
  | doubled => quote
  | escaped c | plain c => c

/-- The unit may stand in a run between two of the quotes. -/
inductive FitsIn (quote : Char) : QuotedUnit → Prop where
  | doubled : FitsIn quote .doubled
  | escaped {c} : FitsIn quote (.escaped c)
  | plain {c} : c ≠ quote → c ≠ escapeCharacter → FitsIn quote (.plain c)

end QuotedUnit

inductive PatternToken where
  | percent (letter : Char)
  | escaped (c : Char)
  | quoted (quote : Char) (units : List QuotedUnit)
  | run (letter : Char) (count : Nat)
  | single (c : Char)
  deriving DecidableEq

namespace PatternToken

def source : PatternToken → List Char
  | percent letter => ['%', letter]
  | escaped c => [escapeCharacter, c]
  | quoted quote units => quote :: (units.flatMap (·.source quote) ++ [quote])
  | run letter count => List.replicate count letter
  | single c => [c]

/-- The token may stand before the characters `behind` it: it is well-formed, and it could not be
taken to reach further. -/
inductive Fits (behind : List Char) : PatternToken → Prop where
  | percent {letter} : letter ∈ PatternLetter.knownLetters → Fits behind (.percent letter)
  | escaped {c} : Fits behind (.escaped c)
  | quoted {quote units} :
      quote = '\'' ∨ quote = '"' → (∀ unit ∈ units, unit.FitsIn quote) →
      behind.head? ≠ some quote → Fits behind (.quoted quote units)
  | run {letter count} :
      letter ∈ PatternLetter.knownLetters → 0 < count → count ≤ PatternLetter.mostRepeats letter →
      behind.head? ≠ some letter → Fits behind (.run letter count)
  | single {c} :
      PatternLetter.isLetter c = false → c ≠ '%' → c ≠ escapeCharacter → c ≠ '\'' → c ≠ '"' →
      Fits behind (.single c)

/-- The element a token stands for; a point is a decimal separator only right before a fraction. -/
def element? (behind : List Char) : PatternToken → Option Element
  | percent letter => PatternLetter.element? letter 1
  | escaped c => some (.literal ⟨.escaped, c.toString⟩)
  | quoted quote units =>
    if units = [] then none
    else some (.literal ⟨.quoted, String.ofList (units.map (·.character quote))⟩)
  | run letter count => PatternLetter.element? letter count
  | single c =>
    if c = ':' then some (.literal .timeSeparator)
    else if c = '/' then some (.literal .dateSeparator)
    else if c = '.' ∧ behind.head? = some 'S' then some (.literal .decimalSeparator)
    else some (.literal ⟨.plain, c.toString⟩)

theorem Fits.source_eq_cons {behind : List Char} {token : PatternToken} (fits : token.Fits behind) :
    ∃ c rest, token.source = c :: rest := by
  cases fits with
  | percent => exact ⟨_, _, rfl⟩
  | escaped => exact ⟨_, _, rfl⟩
  | quoted => exact ⟨_, _, rfl⟩
  | @run letter count _ some _ _ =>
      obtain ⟨more, rfl⟩ := Nat.exists_eq_succ_of_ne_zero (Nat.ne_of_gt some)
      exact ⟨letter, List.replicate more letter, List.replicate_succ⟩
  | single => exact ⟨_, _, rfl⟩

end PatternToken

/-- The failure is one of a pattern and points at a place up to the last one. -/
def Failure.IsOfPatternUpTo (last : Nat) (failure : Failure) : Prop :=
  failure.kind.isPatternFailure = true ∧
    ∃ position, failure.position? = some position ∧ position ≤ last

/-- A pattern is refused with the failure, which points into it and has a complete message. -/
structure Failure.RefusesUpTo (last : Nat) (failure : Failure) : Prop where
  place : failure.IsOfPatternUpTo last
  complete : failure.IsComplete

namespace PatternLetter

theorem isSome_element?_iff {letter : Char} {count : Nat} :
    (element? letter count).isSome = true ↔ letter ∈ knownLetters := by
  constructor
  · intro known
    unfold element? at known
    split at known <;> first | decide | cases known
  · intro known
    simp only [knownLetters, List.mem_cons, List.not_mem_nil, or_false] at known
    rcases known with rfl | rfl | rfl | rfl | rfl | rfl | rfl | rfl | rfl | rfl | rfl | rfl | rfl |
      rfl | rfl | rfl | rfl | rfl | rfl | rfl
    all_goals
      first
        | rfl
        | -- A month is a number or a name, by the count.
          simp only [element?]
          split <;> rfl

theorem element_ok_iff {letter : Char} {count position : Nat} {result : Element} :
    element letter count position = .ok result ↔
      letter ∈ knownLetters ∧ element? letter count = some result := by
  have known : (element? letter count).isSome = true ↔ letter ∈ knownLetters := isSome_element?_iff
  rw [← known, element]
  cases element? letter count with
  | none => simp [throw, throwThe, MonadExceptOf.throw]
  | some found => simp [pure, Except.pure]

theorem element_error {letter : Char} {count position last : Nat} {failure : Failure}
    (within : position ≤ last) (refused : element letter count position = .error failure) :
    failure.RefusesUpTo last := by
  unfold element at refused
  split at refused
  · cases refused
  · cases refused
    exact ⟨⟨rfl, position, rfl, within⟩, rfl⟩

theorem isLetter_of_mem {letter : Char} (known : letter ∈ knownLetters) :
    isLetter letter = true := by
  have letters : knownLetters.all isLetter = true := by decide
  exact List.all_eq_true.mp letters letter known

theorem ne_of_isLetter {letter other : Char} (isOne : isLetter letter = true)
    (isNone : isLetter other = false) : letter ≠ other := by
  rintro rfl
  exact Bool.false_ne_true (isNone.symm.trans isOne)

end PatternLetter

namespace Pattern

/-! ## Quoted runs -/

theorem closingQuote_of_quote {quote : Char} (isQuote : quote = '\'' ∨ quote = '"') :
    PatternCursor.closingQuote quote = quote := by
  rcases isQuote with rfl | rfl <;> rfl

theorem quotedFrom_unit {quote : Char} (notEscape : quote ≠ escapeCharacter) {unit : QuotedUnit}
    (fits : unit.FitsIn quote) (index : Nat) (rest : List Char) :
    PatternCursor.quotedFrom quote index (unit.source quote ++ rest) =
      (PatternCursor.quotedFrom quote (index + (unit.source quote).length) rest).cons
        (unit.character quote) := by
  cases fits with
  | doubled => simp [QuotedUnit.source, QuotedUnit.character, PatternCursor.quotedFrom]
  | escaped =>
      simp [QuotedUnit.source, QuotedUnit.character, PatternCursor.quotedFrom, notEscape.symm]
  | @plain c notQuote noEscape =>
      rw [QuotedUnit.source, List.singleton_append, PatternCursor.quotedFrom.eq_def]
      simp only [if_neg notQuote, if_neg noEscape]
      rfl

theorem quotedFrom_close {quote : Char} {behind : List Char} (stop : behind.head? ≠ some quote)
    (index : Nat) :
    PatternCursor.quotedFrom quote index (quote :: behind) = .closed [] ⟨index + 1, behind⟩ := by
  cases behind with
  | nil => simp [PatternCursor.quotedFrom]
  | cons next behind =>
      have other : next ≠ quote := fun same => stop (congrArg some same)
      simp [PatternCursor.quotedFrom, other]

theorem quotedFrom_complete {quote : Char} (notEscape : quote ≠ escapeCharacter)
    {behind : List Char} (stop : behind.head? ≠ some quote) {units : List QuotedUnit}
    (fit : ∀ unit ∈ units, unit.FitsIn quote) (index : Nat) :
    PatternCursor.quotedFrom quote index (units.flatMap (·.source quote) ++ quote :: behind) =
      .closed (units.map (·.character quote))
        ⟨index + (units.flatMap (·.source quote)).length + 1, behind⟩ := by
  induction units generalizing index with
  | nil => exact quotedFrom_close stop index
  | cons unit units ih =>
      obtain ⟨own, others⟩ := List.forall_mem_cons.mp fit
      rw [List.flatMap_cons, List.append_assoc, quotedFrom_unit notEscape own, ih others,
        List.length_append, Nat.add_assoc index]
      rfl

theorem exists_closed_of_cons {c : Char} {run : PatternCursor.QuotedRun} {text : List Char}
    {next : PatternCursor} (closed : run.cons c = .closed text next) :
    ∃ later, run = .closed later next := by
  cases run with
  | closed later behind =>
      cases closed
      exact ⟨later, rfl⟩
  | unclosed => cases closed
  | endedInEscape => cases closed

theorem quotedFrom_sound {quote : Char} {index : Nat} {pattern text : List Char}
    {next : PatternCursor}
    (closed : PatternCursor.quotedFrom quote index pattern = .closed text next) :
    ∃ units : List QuotedUnit, (∀ unit ∈ units, unit.FitsIn quote) ∧
      next.rest.head? ≠ some quote ∧
      pattern = units.flatMap (·.source quote) ++ quote :: next.rest := by
  fun_induction PatternCursor.quotedFrom quote index pattern generalizing text with
  | case1 => cases closed
  | case2 index rest ih =>
      obtain ⟨later, inner⟩ := exists_closed_of_cons closed
      obtain ⟨units, fit, stop, rfl⟩ := ih inner
      exact ⟨.doubled :: units, List.forall_mem_cons.mpr ⟨.doubled, fit⟩, stop, rfl⟩
  | case3 index d rest other =>
      cases closed
      exact ⟨[], List.forall_mem_nil _, fun same => other (Option.some.inj same), rfl⟩
  | case4 =>
      cases closed
      refine ⟨[], List.forall_mem_nil _, ?_, rfl⟩
      intro same
      cases same
  | case5 index d rest notQuote ih =>
      obtain ⟨later, inner⟩ := exists_closed_of_cons closed
      obtain ⟨units, fit, stop, rfl⟩ := ih inner
      exact ⟨.escaped d :: units, List.forall_mem_cons.mpr ⟨.escaped, fit⟩, stop, rfl⟩
  | case6 => cases closed
  | case7 index c rest notQuote noEscape ih =>
      obtain ⟨later, inner⟩ := exists_closed_of_cons closed
      obtain ⟨units, fit, stop, rfl⟩ := ih inner
      exact ⟨.plain c :: units, List.forall_mem_cons.mpr ⟨.plain notQuote noEscape, fit⟩, stop, rfl⟩

/-! ## Tokens -/

/-- What follows a place is a run of the character, possibly an empty one, and what ends it. -/
theorem exists_run (c : Char) (rest : List Char) :
    ∃ count behind, rest = List.replicate count c ++ behind ∧ behind.head? ≠ some c := by
  induction rest with
  | nil => exact ⟨0, [], rfl, nofun⟩
  | cons next rest ih =>
      by_cases same : next = c
      · obtain ⟨count, behind, rfl, stop⟩ := ih
        exact ⟨count + 1, behind, by rw [same, List.replicate_succ, List.cons_append], stop⟩
      · exact ⟨0, next :: rest, rfl, fun head => same (Option.some.inj head)⟩

theorem skipRun_replicate {c : Char} {behind : List Char} (stop : behind.head? ≠ some c)
    (index count : Nat) :
    PatternCursor.skipRun ⟨index, List.replicate count c ++ behind⟩ c = ⟨index + count, behind⟩ := by
  have run : ∀ d ∈ List.replicate count c, (d == c) = true :=
    fun d member => beq_iff_eq.mpr (List.eq_of_mem_replicate member)
  have ended : behind.takeWhile (· == c) = [] := by
    cases behind with
    | nil => rfl
    | cons next behind =>
        exact List.takeWhile_cons_of_neg fun same => stop (congrArg some (beq_iff_eq.mp same))
  rw [PatternCursor.skipRun, List.takeWhile_append_of_pos run, ended, List.append_nil,
    List.length_replicate, PatternCursor.advance, List.drop_left' List.length_replicate]

theorem letterToken_run {letter : Char} {behind : List Char} (stop : behind.head? ≠ some letter)
    (index count : Nat) :
    letterToken letter index ⟨index + 1, List.replicate count letter ++ behind⟩ =
      if PatternLetter.mostRepeats letter < count + 1 then
        throw
          { kind := .tooManyRepeats
            params := [.character letter, .count (PatternLetter.mostRepeats letter)]
            position? := some index }
      else (fun element => (some element, ⟨index + (count + 1), behind⟩)) <$>
        PatternLetter.element letter (count + 1) index := by
  have length : index + 1 + count - index = count + 1 := by omega
  rw [letterToken, PatternCursor.repeatCount, skipRun_replicate stop, PatternCursor.previous,
    Nat.add_sub_cancel]
  simp only [length]
  split
  · rfl
  · rw [Nat.add_right_comm index]
    rfl

theorem exists_element {letter : Char} (known : letter ∈ PatternLetter.knownLetters)
    (count position : Nat) :
    ∃ element, PatternLetter.element? letter count = some element ∧
      PatternLetter.element letter count position = .ok element := by
  obtain ⟨element, found⟩ :=
    Option.isSome_iff_exists.mp (PatternLetter.isSome_element?_iff.mpr known)
  exact ⟨element, found, PatternLetter.element_ok_iff.mpr ⟨known, found⟩⟩

theorem percentToken_complete {letter : Char} (known : letter ∈ PatternLetter.knownLetters)
    (index : Nat) (behind : List Char) :
    percentToken index ⟨index + 1, letter :: behind⟩ =
      .ok (PatternLetter.element? letter 1, ⟨index + 2, behind⟩) := by
  have isOne := PatternLetter.isLetter_of_mem known
  have notPercent : letter ≠ '%' := PatternLetter.ne_of_isLetter isOne rfl
  obtain ⟨element, found, read⟩ := exists_element known 1 (index + 1)
  simp only [percentToken, if_neg notPercent, if_pos isOne, read, found]
  rfl

theorem quotedToken_complete {quote : Char} (isQuote : quote = '\'' ∨ quote = '"')
    {units : List QuotedUnit} (fit : ∀ unit ∈ units, unit.FitsIn quote) {behind : List Char}
    (stop : behind.head? ≠ some quote) (index : Nat) :
    quotedToken quote
        ⟨index + 1, units.flatMap (·.source quote) ++ quote :: behind⟩ =
      .ok ((PatternToken.quoted quote units).element? behind,
        ⟨index + (PatternToken.quoted quote units).source.length, behind⟩) := by
  have notEscape : quote ≠ escapeCharacter := by
    rcases isQuote with rfl | rfl <;> decide
  have read := quotedFrom_complete notEscape stop fit (index + 1)
  have place : index + 1 + (units.flatMap (·.source quote)).length + 1 =
      index + (PatternToken.quoted quote units).source.length := by
    simp only [PatternToken.source, List.length_cons, List.length_append, List.length_nil]
    omega
  simp only [quotedToken, PatternCursor.quotedText, PatternCursor.quoted,
    closingQuote_of_quote isQuote, read, place, PatternToken.element?, pure_bind,
    List.map_eq_nil_iff]
  rfl

theorem run_complete {letter : Char} {count : Nat}
    (known : letter ∈ PatternLetter.knownLetters)
    (most : count + 1 ≤ PatternLetter.mostRepeats letter) {behind : List Char}
    (stop : behind.head? ≠ some letter) (index : Nat) :
    letterToken letter index ⟨index + 1, List.replicate count letter ++ behind⟩ =
      .ok (PatternLetter.element? letter (count + 1), ⟨index + (count + 1), behind⟩) := by
  obtain ⟨element, found, read⟩ := exists_element known (count + 1) index
  rw [letterToken_run stop, if_neg (Nat.not_lt.mpr most), read, found]
  rfl

/-- A token that may stand at the head of a pattern is the one read there. -/
theorem token_complete {token : PatternToken} {behind rest : List Char} {c : Char}
    (fits : token.Fits behind) (spelled : token.source ++ behind = c :: rest) (index : Nat) :
    Pattern.token c index ⟨index + 1, rest⟩ =
      .ok (token.element? behind, ⟨index + token.source.length, behind⟩) := by
  cases fits with
  | percent known =>
      cases spelled
      exact percentToken_complete known index behind
  | escaped =>
      cases spelled
      rfl
  | @quoted quote units isQuote fit stop =>
      obtain ⟨rfl, rfl⟩ : quote = c ∧ units.flatMap (·.source quote) ++ quote :: behind = rest := by
        simpa [PatternToken.source] using spelled
      have notPercent : quote ≠ '%' ∧ quote ≠ escapeCharacter := by
        rcases isQuote with rfl | rfl <;> decide
      rw [Pattern.token, if_neg notPercent.1, if_neg notPercent.2, if_pos isQuote]
      exact quotedToken_complete isQuote fit stop index
  | @run letter count known some most stop =>
      obtain ⟨more, rfl⟩ := Nat.exists_eq_succ_of_ne_zero (Nat.ne_of_gt some)
      cases spelled
      have isOne := PatternLetter.isLetter_of_mem known
      have other {d : Char} : PatternLetter.isLetter d = false → c ≠ d :=
        PatternLetter.ne_of_isLetter isOne
      rw [Pattern.token, if_neg (other rfl), if_neg (other rfl),
        if_neg (not_or.mpr ⟨other rfl, other rfl⟩), if_neg (other rfl), if_neg (other rfl),
        if_neg (fun point => other rfl point.1), if_pos isOne, PatternToken.source,
        List.length_replicate]
      exact run_complete known most stop index
  | single noLetter noPercent noEscape noSingle noDouble =>
      cases spelled
      rw [Pattern.token, if_neg noPercent, if_neg noEscape,
        if_neg (not_or.mpr ⟨noSingle, noDouble⟩), noLetter, PatternToken.element?]
      split
      · rfl
      · split
        · rfl
        · by_cases point : c = '.' ∧ behind.head? = some 'S'
          · rw [if_pos point]
            exact if_pos point
          · rw [if_neg point]
            exact if_neg point

theorem percentToken_sound {index : Nat} {rest : List Char} {next : PatternCursor}
    {element? : Option Element} (read : percentToken index ⟨index + 1, rest⟩ = .ok (element?, next)) :
    ∃ token : PatternToken, token.Fits next.rest ∧ '%' :: rest = token.source ++ next.rest := by
  cases rest with
  | nil => cases read
  | cons letter behind =>
      simp only [percentToken] at read
      split at read
      · cases read
      · split at read
        · cases found : PatternLetter.element letter 1 (index + 1) with
          | error failure =>
              rw [found] at read
              cases read
          | ok element =>
              rw [found] at read
              cases read
              exact ⟨.percent letter, .percent (PatternLetter.element_ok_iff.mp found).1, rfl⟩
        · cases read

theorem escapeToken_sound {index : Nat} {rest : List Char} {next : PatternCursor}
    {element? : Option Element} (read : escapeToken index ⟨index + 1, rest⟩ = .ok (element?, next)) :
    ∃ token : PatternToken, token.Fits next.rest ∧
      escapeCharacter :: rest = token.source ++ next.rest := by
  cases rest with
  | nil => cases read
  | cons c behind =>
      cases read
      exact ⟨.escaped c, .escaped, rfl⟩

theorem quotedToken_sound {quote : Char} (isQuote : quote = '\'' ∨ quote = '"') {index : Nat}
    {rest : List Char} {next : PatternCursor} {element? : Option Element}
    (read : quotedToken quote ⟨index + 1, rest⟩ = .ok (element?, next)) :
    ∃ token : PatternToken, token.Fits next.rest ∧ quote :: rest = token.source ++ next.rest := by
  cases closed : PatternCursor.quotedFrom quote (index + 1) rest with
  | closed text behind =>
      simp only [quotedToken, PatternCursor.quotedText, PatternCursor.quoted,
        closingQuote_of_quote isQuote, closed] at read
      cases read
      obtain ⟨units, fit, stop, rfl⟩ := quotedFrom_sound closed
      refine ⟨.quoted quote units, .quoted isQuote fit stop, ?_⟩
      simp [PatternToken.source]
  | unclosed behind | endedInEscape behind =>
      simp only [quotedToken, PatternCursor.quotedText, PatternCursor.quoted,
        closingQuote_of_quote isQuote, closed] at read
      cases read

theorem letterToken_sound {letter : Char} {index : Nat} {rest : List Char} {next : PatternCursor}
    {element? : Option Element}
    (read : letterToken letter index ⟨index + 1, rest⟩ = .ok (element?, next)) :
    ∃ token : PatternToken, token.Fits next.rest ∧ letter :: rest = token.source ++ next.rest := by
  obtain ⟨count, behind, rfl, stop⟩ := exists_run letter rest
  rw [letterToken_run stop] at read
  split at read
  · cases read
  · next few =>
      cases found : PatternLetter.element letter (count + 1) index with
      | error failure =>
          rw [found] at read
          cases read
      | ok element =>
          rw [found] at read
          cases read
          have known := (PatternLetter.element_ok_iff.mp found).1
          exact ⟨.run letter (count + 1), .run known (Nat.succ_pos count) (Nat.not_lt.mp few) stop,
            rfl⟩

/-- What is read at the head of a pattern is a token that may stand there. -/
theorem token_sound {c : Char} {index : Nat} {rest : List Char} {next : PatternCursor}
    {element? : Option Element}
    (read : Pattern.token c index ⟨index + 1, rest⟩ = .ok (element?, next)) :
    ∃ token : PatternToken, token.Fits next.rest ∧ c :: rest = token.source ++ next.rest := by
  unfold Pattern.token at read
  split at read
  case isTrue percent =>
    subst percent
    exact percentToken_sound read
  case isFalse noPercent =>
    split at read
    case isTrue escape =>
      subst escape
      exact escapeToken_sound read
    case isFalse noEscape =>
      split at read
      case isTrue isQuote => exact quotedToken_sound isQuote read
      case isFalse noQuote =>
        obtain ⟨noSingle, noDouble⟩ := not_or.mp noQuote
        cases letter : PatternLetter.isLetter c with
        | true =>
            have other {d : Char} : PatternLetter.isLetter d = false → c ≠ d :=
              PatternLetter.ne_of_isLetter letter
            rw [if_neg (other rfl), if_neg (other rfl), if_neg (fun point => other rfl point.1),
              if_pos letter] at read
            exact letterToken_sound read
        | false =>
            have rest_eq : next.rest = rest := by
              rw [if_neg (Bool.eq_false_iff.mp letter)] at read
              repeat' split at read
              all_goals
                cases read
                rfl
            subst rest_eq
            exact ⟨.single c, .single letter noPercent noEscape noSingle noDouble, rfl⟩

/-! ## Refusals -/

/-- Reading a quoted run loses count of no character. -/
theorem index_quotedFrom_behind (close : Char) (index : Nat) (rest : List Char) :
    (PatternCursor.quotedFrom close index rest).behind.index +
        (PatternCursor.quotedFrom close index rest).behind.rest.length = index + rest.length := by
  fun_induction PatternCursor.quotedFrom close index rest <;>
    simp only [PatternCursor.QuotedRun.behind_cons, PatternCursor.QuotedRun.behind_closed,
      PatternCursor.QuotedRun.behind_unclosed, PatternCursor.QuotedRun.behind_endedInEscape,
      List.length_cons, List.length_nil] <;>
    omega

theorem percentToken_error {index : Nat} {rest : List Char} {failure : Failure}
    (refused : percentToken index ⟨index + 1, rest⟩ = .error failure) :
    failure.RefusesUpTo (index + (rest.length + 1)) := by
  cases rest with
  | nil =>
      cases refused
      exact ⟨⟨rfl, index, rfl, Nat.le_add_right _ _⟩, rfl⟩
  | cons c behind =>
      have within : index + 1 ≤ index + ((c :: behind).length + 1) := by
        simp only [List.length_cons]
        omega
      simp only [percentToken] at refused
      split at refused
      · cases refused
        exact ⟨⟨rfl, index, rfl, Nat.le_add_right _ _⟩, rfl⟩
      · split at refused
        · cases found : PatternLetter.element c 1 (index + 1) with
          | error cause =>
              rw [found] at refused
              cases refused
              exact PatternLetter.element_error within found
          | ok element =>
              rw [found] at refused
              cases refused
        · cases refused
          exact ⟨⟨rfl, index + 1, rfl, within⟩, rfl⟩

theorem quotedToken_error {quote : Char} {index : Nat} {rest : List Char} {failure : Failure}
    (refused : quotedToken quote ⟨index + 1, rest⟩ = .error failure) :
    failure.RefusesUpTo (index + (rest.length + 1)) := by
  have counted := index_quotedFrom_behind (PatternCursor.closingQuote quote) (index + 1) rest
  simp only [quotedToken, PatternCursor.quotedText, PatternCursor.quoted] at refused
  cases run : PatternCursor.quotedFrom (PatternCursor.closingQuote quote) (index + 1) rest with
  | closed text behind =>
      rw [run] at refused
      cases refused
  | unclosed behind =>
      rw [run] at refused
      cases refused
      exact ⟨⟨rfl, index, rfl, Nat.le_add_right _ _⟩, rfl⟩
  | endedInEscape behind =>
      rw [run] at refused counted
      cases refused
      refine ⟨⟨rfl, behind.index, rfl, ?_⟩, rfl⟩
      simp only [PatternCursor.QuotedRun.behind_endedInEscape] at counted
      omega

theorem letterToken_error {letter : Char} {index : Nat} {rest : List Char} {failure : Failure}
    (refused : letterToken letter index ⟨index + 1, rest⟩ = .error failure) :
    failure.RefusesUpTo (index + (rest.length + 1)) := by
  obtain ⟨count, behind, rfl, stop⟩ := exists_run letter rest
  rw [letterToken_run stop] at refused
  split at refused
  · cases refused
    exact ⟨⟨rfl, index, rfl, Nat.le_add_right _ _⟩, rfl⟩
  · cases found : PatternLetter.element letter (count + 1) index with
    | error cause =>
        rw [found] at refused
        cases refused
        exact PatternLetter.element_error (Nat.le_add_right _ _) found
    | ok element =>
        rw [found] at refused
        cases refused

/-- Where no token can be read, the failure points into the pattern. -/
theorem token_error {c : Char} {index : Nat} {rest : List Char} {failure : Failure}
    (refused : Pattern.token c index ⟨index + 1, rest⟩ = .error failure) :
    failure.RefusesUpTo (index + (rest.length + 1)) := by
  unfold Pattern.token at refused
  split at refused
  · exact percentToken_error refused
  · split at refused
    · cases rest with
      | nil =>
          cases refused
          exact ⟨⟨rfl, index, rfl, Nat.le_add_right _ _⟩, rfl⟩
      | cons => cases refused
    · split at refused
      · exact quotedToken_error refused
      · -- The symbols are always read.
        repeat' split at refused
        all_goals first | exact letterToken_error refused | cases refused

end Pattern

end ChronoText
