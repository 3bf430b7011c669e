import ChronoText.Parsing.Whole
import ChronoText.Proofs.Parsing.Readers
import ChronoText.Proofs.Text.Numerals

/-! What any text leaves in the bucket. A property of the bucket that every element keeps is kept by
a sequence of them, and a number that was read has been put into the bucket as it stood in the
text, with no more than 999 thousandths. -/

set_option autoImplicit false

namespace ChronoText

theorem ParseState.fail_ne_advanced (state : ParseState) {fault : Fault} {next : Cursor}
    {after : ParseState} : state.fail fault ≠ (.advanced next, after) := by
  intro same
  cases congrArg Prod.fst same

/-! ## Sequences of elements -/

namespace Element

/-- Getting on behind the element makes `later` true of the bucket where `earlier` was. -/
def Establishes (settings : ParseSettings) (earlier later : Bucket → Prop) (element : Element) :
    Prop :=
  ∀ cursor state next after, parse settings cursor state element = (.advanced next, after) →
    earlier state.bucket → later after.bucket

abbrev Keeps (settings : ParseSettings) (property : Bucket → Prop) (element : Element) : Prop :=
  Establishes settings property property element

theorem keeps_literal (settings : ParseSettings) (property : Bucket → Prop) (literal : Literal) :
    Keeps settings property (.literal literal) := by
  intro cursor state next after read holds
  rw [parse] at read
  cases taken : literal.read settings cursor with
  | error fault =>
      rw [taken] at read
      cases read
  | ok behind =>
      rw [taken] at read
      cases read
      exact holds

theorem keeps_separator (settings : ParseSettings) (property : Bucket → Prop)
    (between : Separator) : Keeps settings property (.separator between) := by
  intro cursor state next after read holds
  rw [parse] at read
  cases read
  exact holds

/-- A number is read, or it is absent and nothing changes. -/
theorem establishes_number {settings : ParseSettings} {earlier later : Bucket → Prop}
    {number : NumberField}
    (there : ∀ start bucket next after, number.read settings start bucket = .ok (next, after) →
      earlier bucket → later after)
    (absent : ∀ bucket, earlier bucket → later bucket) :
    Establishes settings earlier later (.number number) := by
  intro cursor state next after read holds
  rw [parse, NumberField.parse] at read
  split at read
  · next taken =>
      cases read
      exact there _ _ _ _ taken holds
  · cases read
    exact absent _ holds
  · cases read

/-- Reading that gets to an end has got behind the first elements, which have kept the property. -/
theorem parseFrom_append_of_advanced {settings : ParseSettings} {property : Bucket → Prop}
    {elements rest : List Element} (keeps : ∀ element ∈ elements, Keeps settings property element)
    {segment : Nat} {passed : List PassedSeparator} {cursor next : Cursor}
    {state after : ParseState}
    (read : parseFrom settings segment passed cursor state (elements ++ rest) =
      (.advanced next, after))
    (holds : property state.bucket) :
    ∃ segment' passed' cursor' state', property state'.bucket ∧
      parseFrom settings segment' passed' cursor' state' rest = (.advanced next, after) := by
  induction elements generalizing segment passed cursor state with
  | nil => exact ⟨segment, passed, cursor, state, holds, read⟩
  | cons element elements ih =>
      obtain ⟨own, others⟩ := List.forall_mem_cons.mp keeps
      rw [List.cons_append] at read
      unfold parseFrom at read
      split at read
      · next empty => cases empty
      · next between behind shape =>
          cases shape
          exact ih others read holds
      · next first behind _ shape =>
          cases shape
          split at read
          · next position later taken =>
              exact ih others read (own _ _ _ _ taken holds)
          · next notAdvanced => exact (notAdvanced next after read).elim

/-- What the last element establishes holds at the end of the sequence, if the elements before it
keep what it asks for. -/
theorem parseFrom_establishes {settings : ParseSettings} {earlier later : Bucket → Prop}
    {elements : List Element} {last : Element}
    (keep : ∀ element ∈ elements, Keeps settings earlier element)
    (plain : ∀ between, last ≠ .separator between)
    (establishes : Establishes settings earlier later last) {segment : Nat}
    {passed : List PassedSeparator} {cursor next : Cursor} {state after : ParseState}
    (read : parseFrom settings segment passed cursor state (elements ++ [last]) =
      (.advanced next, after))
    (holds : earlier state.bucket) : later after.bucket := by
  obtain ⟨segment, passed, cursor, state, held, read⟩ :=
    parseFrom_append_of_advanced keep read holds
  rw [parseFrom] at read
  case x_1 => exact plain
  split at read
  · next position behind taken =>
      have finished : after = behind := by
        rw [parseFrom, finish] at read
        split at read
        · cases read
        · cases read
          rfl
      rw [finished]
      exact establishes _ _ _ _ taken held
  · next notAdvanced => exact (notAdvanced next after read).elim

end Element

theorem parseWhole_eq_ok {elements : List Element} {settings : ParseSettings} {text : List Char}
    {wanted : String} {bucket : Bucket}
    (read : parseWhole elements settings text wanted = .ok bucket) :
    ∃ start cursor state, Element.parse settings start {} (.composite elements) =
      (.advanced cursor, state) ∧ state.bucket = bucket := by
  unfold parseWhole at read
  split at read
  · cases read
  · dsimp only at read
    cases taken : Element.parse settings (startOf settings.styles text) {} (.composite elements) with
    | mk outcome state =>
        rw [taken] at read
        cases outcome with
        | failedAt position => cases read
        | advanced cursor =>
            dsimp only at read
            generalize (if settings.styles.trailingBlank then Text.dropBlank cursor.rest
              else cursor.rest) = left at read
            by_cases nothing : left = []
            · rw [if_pos nothing] at read
              cases read
              exact ⟨_, cursor, state, taken, rfl⟩
            · rw [if_neg nothing] at read
              cases read

theorem parseWhole_eq_error {elements : List Element} {settings : ParseSettings}
    {text : List Char} {position : Nat} {state : ParseState} {failure : Failure}
    (start : settings.styles.leadingBlank = false) (given : text ≠ [])
    (read : Element.parseFrom settings 0 [] ⟨0, text⟩ {} elements = (.failedAt position, state))
    (recorded : state.failure? = some failure) (wanted : String) :
    parseWhole elements settings text wanted = .error failure := by
  simp only [parseWhole, given, if_false, startOf, start, Bool.false_eq_true, Cursor.start,
    Element.parse, read, recorded, Option.getD_some]
  rfl

/-! ## Numbers -/

namespace Text

theorem digitValue?_lt {zero c : Char} {digit : Nat} (value : digitValue? zero c = some digit) :
    digit < 10 := by
  unfold digitValue? at value
  split at value
  · next ascii =>
      cases value
      have high : c.toNat ≤ 57 := ascii.2
      have code : '0'.toNat = 48 := rfl
      omega
  · split at value
    · next run =>
        cases value
        exact run.2
    · cases value

theorem leadingDigits_lt (zero : Char) (text : List Char) :
    ∀ digit ∈ leadingDigits zero text, digit < 10 := by
  induction text with
  | nil => exact List.forall_mem_nil _
  | cons c rest ih =>
      intro digit member
      unfold leadingDigits at member
      split at member
      · next first value =>
          rcases List.mem_cons.mp member with rfl | later
          · exact digitValue?_lt value
          · exact ih digit later
      · cases member

end Text

namespace NumberField

theorem millisAfter?_lt {culture : Culture} {text : List Char} {millis length : Nat}
    (read : millisAfter? culture text = some (millis, length)) : millis < 1000 := by
  unfold millisAfter? at read
  dsimp only at read
  split at read
  · cases read
  · next separator _ =>
      split at read
      · cases read
      · cases read
        have digits := Text.leadingDigits_lt culture.zeroDigit (text.drop separator.length)
        refine Nat.lt_of_lt_of_le (Text.valueOfDigits_lt ?_) (Nat.pow_le_pow_right (by decide) ?_ :
          _ ≤ 10 ^ 3)
        · intro digit member
          rcases List.mem_append.mp (List.mem_of_mem_take member) with own | zero
          · exact digits digit own
          · simp only [List.mem_cons, List.not_mem_nil, or_false, or_self] at zero
            omega
        · exact List.length_take_le 3 _

theorem eq_ok_of_mapError {Error Mapped Value : Type} {map : Error → Mapped}
    {result : Except Error Value} {value : Value} (mapped : result.mapError map = .ok value) :
    result = .ok value := by
  cases result with
  | error error => cases mapped
  | ok own =>
      cases mapped
      rfl

theorem ok_of_ite_error {Error Value : Type} {condition : Prop} [Decidable condition] {error : Error}
    {result : Except Error Value} {value : Value}
    (passed : (if condition then .error error else result) = .ok value) : result = .ok value := by
  split at passed
  · cases passed
  · exact passed

theorem read_eq_ok {number : NumberField} {settings : ParseSettings} {start next : Cursor}
    {bucket after : Bucket} (read : number.read settings start bucket = .ok (next, after)) :
    ∃ required before? numberStart numeral,
      number.readNumeral settings.culture required before? numberStart = .ok numeral ∧
      number.store settings.periodType numeral bucket = .ok after := by
  cases (number.read_steps settings start bucket).of_ok read with
  | numeral _ found stored _ => exact ⟨_, _, _, _, found, stored⟩

theorem readNumeral_eq_ok {number : NumberField} {culture : Culture} {required : Bool}
    {before? : Option Nat} {start : Cursor} {numeral : Numeral}
    (read : number.readNumeral culture required before? start = .ok numeral) :
    (∀ millis ∈ numeral.millis?, millis < 1000) ∧
      (number.optionalMillis = false → numeral.millis? = none) := by
  have fraction (behind : List Char) :
      let fraction? := if number.optionalMillis then millisAfter? culture behind else none
      (∀ millis ∈ fraction?.map (·.1), millis < 1000) ∧
        (number.optionalMillis = false → fraction?.map (·.1) = none) := by
    intro fraction?
    constructor
    · intro millis member
      obtain ⟨found, shown, rfl⟩ := Option.map_eq_some_iff.mp member
      simp only [fraction?] at shown
      split at shown
      · exact millisAfter?_lt shown
      · cases shown
    · intro refused
      simp only [fraction?, refused, Bool.false_eq_true, if_false, Option.map_none]
  unfold readNumeral at read
  simp only [bind, Except.bind, pure, Except.pure, throw, throwThe, MonadExceptOf.throw] at read
  have passed := ok_of_ite_error (ok_of_ite_error (ok_of_ite_error (ok_of_ite_error read)))
  cases passed
  exact fraction _

def Numeral.signedMillis (numeral : Numeral) (millis : Nat) : Int :=
  if numeral.negative then -millis else millis

theorem storeUnit_eq_ok {type : PeriodType} {bucket after : Bucket} {unit : PeriodField}
    {value : Int32} (stored : storeUnit type bucket unit value = .ok after) :
    after = bucket.setPeriodField unit value := by
  unfold storeUnit at stored
  split at stored
  · cases stored
  · cases stored
    rfl

/-- A unit that was put into the bucket fits in 32 bits, and its thousandths are the milliseconds. -/
theorem store_eq_ok {number : NumberField} {type : PeriodType} {numeral : Numeral}
    {bucket after : Bucket} {unit : PeriodField} (selector : number.selector = .period unit)
    (stored : number.store type numeral bucket = .ok after) :
    (-2 ^ 31 ≤ numeral.value ∧ numeral.value < 2 ^ 31) ∧
      after =
        match numeral.millis? with
        | some millis =>
          (bucket.setPeriodField unit (.ofInt numeral.value)).setPeriodField .millis
            (.ofInt (numeral.signedMillis millis))
        | none => bucket.setPeriodField unit (.ofInt numeral.value) := by
  unfold store at stored
  simp only [selector, bind, Except.bind, pure, Except.pure, throw, throwThe,
    MonadExceptOf.throw] at stored
  split at stored
  · cases stored
  · next inRange =>
      refine ⟨by omega, ?_⟩
      split at stored
      · cases stored
      · next first =>
          have first := storeUnit_eq_ok (eq_ok_of_mapError first)
          split at stored
          · next none =>
              cases stored
              rw [first, none]
          · next millis some =>
              have second := storeUnit_eq_ok (eq_ok_of_mapError stored)
              rw [second, first, some]
              rfl

end NumberField

end ChronoText
