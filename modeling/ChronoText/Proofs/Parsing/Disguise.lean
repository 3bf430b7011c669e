import ChronoText.Parsing.Whole
import ChronoText.Proofs.Parsing.Affixes

/-! Texts in disguise. A disguise changes the case of letters, of which the culture takes none for a
digit or for its decimal separator, and moves the text further on. No reader notices: what is read
from a text in disguise is what is read from the text, at places that have moved on alike. -/

set_option autoImplicit false

namespace ChronoText

/-- The failure with its place moved on by a number of bytes. -/
def Failure.movedOn (failure : Failure) (bytes : Nat) : Failure :=
  { failure with position? := failure.position?.map (· + bytes) }

def ParseState.movedOn (state : ParseState) (bytes : Nat) : ParseState :=
  { state with failure? := state.failure?.map (·.movedOn bytes) }

def ParsePosition.movedOn (outcome : ParsePosition) (bytes : Nat) : ParsePosition :=
  match outcome with
  | .advanced position => .advanced (position + bytes)
  | .failedAt position => .failedAt (position + bytes)

/-- A change to the letters of a text and to the places in it that readers do not notice. -/
structure Disguise (culture : Culture) where
  /-- The number of bytes by which places move on. -/
  shift : Nat
  replace : Char → Char
  toLower_replace : ∀ c, (replace c).toLower = c.toLower
  digitValue?_replace : ∀ c,
    Text.digitValue? culture.zeroDigit (replace c) = Text.digitValue? culture.zeroDigit c
  decimal_replace : ∀ e ∈ culture.decimalSeparator.toList, ∀ c, replace c = e ↔ c = e

namespace Disguise

variable {culture : Culture} (disguise : Disguise culture)

/-! ## Characters -/

theorem isAlpha_replace (c : Char) : (disguise.replace c).isAlpha = c.isAlpha := by
  rw [← Char.isAlpha_toLower_eq_isAlpha, toLower_replace, Char.isAlpha_toLower_eq_isAlpha]

theorem replace_of_not_alpha {c : Char} (other : c.isAlpha = false) : disguise.replace c = c := by
  have still := disguise.isAlpha_replace c
  rw [other] at still
  rw [← Text.toLower_of_not_alpha still, toLower_replace, Text.toLower_of_not_alpha other]

/-- A class of characters without letters has the same members in disguise. -/
theorem class_replace (members : Char → Bool) (noLetter : ∀ c, c.isAlpha = true → members c = false)
    (c : Char) : members (disguise.replace c) = members c := by
  cases alpha : c.isAlpha with
  | false => rw [disguise.replace_of_not_alpha alpha]
  | true =>
      rw [noLetter c alpha, noLetter _]
      rw [isAlpha_replace, alpha]

theorem replace_eq_iff {e : Char} (other : e.isAlpha = false) (c : Char) :
    disguise.replace c = e ↔ c = e := by
  have same := disguise.class_replace (· == e) (fun letter alpha => by
    rw [beq_eq_false_iff_ne]
    rintro rfl
    rw [alpha] at other
    cases other) c
  simpa using same

theorem utf8Size_replace (c : Char) : (disguise.replace c).utf8Size = c.utf8Size := by
  have one {c : Char} (alpha : c.isAlpha = true) : c.utf8Size = 1 := by
    have ascii := (Text.toNat_of_isAlpha alpha).2
    rw [Char.utf8Size_eq_one_iff, UInt32.le_iff_toNat_le]
    exact Nat.le_of_lt_succ ascii
  cases alpha : c.isAlpha with
  | false => rw [disguise.replace_of_not_alpha alpha]
  | true => rw [one alpha, one ((disguise.isAlpha_replace c).trans alpha)]

theorem lowercase_replace (c : Char) :
    Text.lowercase (disguise.replace c) = Text.lowercase c := by
  cases alpha : c.isAlpha with
  | false => rw [disguise.replace_of_not_alpha alpha]
  | true =>
      have still := (disguise.isAlpha_replace c).trans alpha
      rw [Text.lowercase_of_ascii (Text.toNat_of_isAlpha alpha).2,
        Text.lowercase_of_ascii (Text.toNat_of_isAlpha still).2, toLower_replace]

theorem sameLetter_replace (expected c : Char) :
    Text.sameLetter expected (disguise.replace c) = Text.sameLetter expected c := by
  have sameLetter_eq (actual : Char) : Text.sameLetter expected actual =
      (Text.lowercase actual == Text.lowercase expected) := by
    rw [Text.sameLetter, Bool.or_eq_right_iff_imp]
    intro same
    rw [beq_iff_eq.mp same, beq_self_eq_true]
  rw [sameLetter_eq, sameLetter_eq, lowercase_replace]

theorem isBlank_replace (c : Char) : Text.isBlank (disguise.replace c) = Text.isBlank c := by
  refine disguise.class_replace Text.isBlank (fun letter alpha => ?_) c
  have code := Text.toNat_of_isAlpha alpha
  have apart : ∀ range ∈ Text.blankRanges, range.2 < 65 ∨ 128 ≤ range.1 := by decide
  rw [Text.isBlank, List.any_eq_false]
  intro range member
  have own := apart range member
  rw [Bool.and_eq_true, decide_eq_true_eq, decide_eq_true_eq]
  omega

theorem isNumberCharacter_replace (c : Char) :
    Affix.isNumberCharacter (disguise.replace c) = Affix.isNumberCharacter c := by
  refine disguise.class_replace Affix.isNumberCharacter (fun letter alpha => ?_) c
  rw [← Bool.not_eq_true]
  intro number
  have small := (Affix.beforeLetters_of_isNumberCharacter number).2
  have large := (Text.toNat_of_isAlpha alpha).1
  omega

/-! ## Texts -/

def text (chars : List Char) : List Char :=
  chars.map disguise.replace

@[simp] theorem text_cons (c : Char) (rest : List Char) :
    disguise.text (c :: rest) = disguise.replace c :: disguise.text rest := rfl

@[simp] theorem text_eq_nil_iff {chars : List Char} : disguise.text chars = [] ↔ chars = [] :=
  List.map_eq_nil_iff

@[simp] theorem length_text (chars : List Char) : (disguise.text chars).length = chars.length :=
  List.length_map _

@[simp] theorem take_text (characters : Nat) (chars : List Char) :
    (disguise.text chars).take characters = disguise.text (chars.take characters) :=
  (List.map_take ..).symm

@[simp] theorem drop_text (characters : Nat) (chars : List Char) :
    (disguise.text chars).drop characters = disguise.text (chars.drop characters) :=
  (List.map_drop ..).symm

@[simp] theorem utf8Length_text (chars : List Char) :
    Text.utf8Length (disguise.text chars) = Text.utf8Length chars := by
  induction chars with
  | nil => rfl
  | cons c rest ih =>
      rw [text_cons, Text.utf8Length_cons, utf8Size_replace, ih, Text.utf8Length_cons]

@[simp] theorem startsWithCaseless_text (expected chars : List Char) :
    Text.startsWithCaseless expected (disguise.text chars) =
      Text.startsWithCaseless expected chars := by
  induction expected generalizing chars with
  | nil => rfl
  | cons e expected ih =>
      cases chars with
      | nil => rfl
      | cons c rest =>
          rw [text_cons, Text.startsWithCaseless, sameLetter_replace, ih, Text.startsWithCaseless]

@[simp] theorem leadingDigits_text (chars : List Char) :
    Text.leadingDigits culture.zeroDigit (disguise.text chars) =
      Text.leadingDigits culture.zeroDigit chars := by
  induction chars with
  | nil => rfl
  | cons c rest ih =>
      rw [text_cons, Text.leadingDigits, digitValue?_replace, ih, Text.leadingDigits]

@[simp] theorem startsWithDigit_text (chars : List Char) :
    Text.startsWithDigit culture.zeroDigit (disguise.text chars) =
      Text.startsWithDigit culture.zeroDigit chars := by
  cases chars with
  | nil => rfl
  | cons c rest =>
      simp only [text_cons, Text.startsWithDigit, List.head?_cons, Option.bind_some,
        digitValue?_replace]

@[simp] theorem takeWhile_isBlank_text (chars : List Char) :
    (disguise.text chars).takeWhile Text.isBlank = disguise.text (chars.takeWhile Text.isBlank) := by
  have same : Text.isBlank ∘ disguise.replace = Text.isBlank := funext disguise.isBlank_replace
  rw [text, List.takeWhile_map, same, text]

/-- Text that a reader compares exactly stands in front of a text and of its disguise alike, if each
of its characters does. -/
theorem isPrefixOf_text {exact : List Char}
    (kept : ∀ e ∈ exact, ∀ c, disguise.replace c = e ↔ c = e) (chars : List Char) :
    exact.isPrefixOf (disguise.text chars) = exact.isPrefixOf chars := by
  induction exact generalizing chars with
  | nil => rfl
  | cons e exact ih =>
      obtain ⟨own, others⟩ := List.forall_mem_cons.mp kept
      cases chars with
      | nil => rfl
      | cons c rest =>
          have first : (e == disguise.replace c) = (e == c) := by
            rw [Bool.beq_comm, @Bool.beq_comm _ _ _ e c, Bool.eq_iff_iff, beq_iff_eq, beq_iff_eq,
              own c]
          rw [text_cons, List.isPrefixOf, first, ih others, List.isPrefixOf]

@[simp] theorem distance?_text (affix : Affix) (chars : List Char) :
    affix.distance? (disguise.text chars) = affix.distance? chars := by
  have starts (chars : List Char) : affix.starts (disguise.text chars) = affix.starts chars := by
    simp only [Affix.starts, startsWithCaseless_text]
  induction chars with
  | nil => rfl
  | cons c rest ih =>
      have own := starts (c :: rest)
      rw [text_cons] at own ⊢
      rw [Affix.distance?, own, isNumberCharacter_replace, ih, Affix.distance?]

/-! ## Places -/

def cursor (place : Cursor) : Cursor :=
  ⟨place.position + disguise.shift, disguise.text place.rest⟩

@[simp] theorem position_cursor (place : Cursor) :
    (disguise.cursor place).position = place.position + disguise.shift := rfl

@[simp] theorem rest_cursor (place : Cursor) :
    (disguise.cursor place).rest = disguise.text place.rest := rfl

@[simp] theorem advance_cursor (place : Cursor) (characters : Nat) :
    (disguise.cursor place).advance characters = disguise.cursor (place.advance characters) := by
  simp only [Cursor.advance, cursor, take_text, drop_text, utf8Length_text]
  rw [Nat.add_right_comm]

@[simp] theorem skip?_cursor (place : Cursor) (expected : String) :
    (disguise.cursor place).skip? expected = (place.skip? expected).map disguise.cursor := by
  simp only [Cursor.skip?, rest_cursor, startsWithCaseless_text, advance_cursor]
  split <;> rfl

/-- Of several texts the same is found. -/
theorem findSome?_skip?_cursor (place : Cursor) (forms : List String) :
    forms.findSome? (disguise.cursor place).skip? =
      (forms.findSome? place.skip?).map disguise.cursor := by
  rw [List.map_findSome?]
  exact congrArg (forms.findSome? ·) (funext (disguise.skip?_cursor place))

@[simp] theorem skipAffix?_cursor (affix : Affix) (place : Cursor) :
    affix.skip? (disguise.cursor place) = (affix.skip? place).map disguise.cursor :=
  disguise.findSome?_skip?_cursor place affix.forms

@[simp] theorem skipSeparator?_cursor (between : Separator) (place : Cursor) :
    between.skip? (disguise.cursor place) = (between.skip? place).map disguise.cursor :=
  disguise.findSome?_skip?_cursor place between.forms

/-! ## Results -/

def fault (fault : Fault) : Fault :=
  ⟨fault.position + disguise.shift, fault.failure⟩

def state (state : ParseState) : ParseState :=
  state.movedOn disguise.shift

def outcome : ParseOutcome → ParseOutcome
  | .advanced place => .advanced (disguise.cursor place)
  | .failedAt position => .failedAt (position + disguise.shift)

theorem position_outcome (outcome : ParseOutcome) :
    (disguise.outcome outcome).position = outcome.position.movedOn disguise.shift := by
  cases outcome <;> rfl

/-- The place behind what was read, in disguise, and the bucket. -/
def taken (read : Cursor × Bucket) : Cursor × Bucket :=
  (disguise.cursor read.1, read.2)

/-- What reading an element returns and leaves, in disguise. -/
def ending (ending : ParseOutcome × ParseState) : ParseOutcome × ParseState :=
  (disguise.outcome ending.1, disguise.state ending.2)

/-- Failing further on leaves the failure there. -/
theorem fail_state (state : ParseState) (fault : Fault) :
    (disguise.state state).fail (disguise.fault fault) = disguise.ending (state.fail fault) := by
  obtain ⟨bucket, failure?⟩ := state
  cases failure? <;> rfl

/-- The result of a reader, with its error or its value in disguise. -/
def result {Error Value : Type} (error : Error → Error) (value : Value → Value) :
    Except Error Value → Except Error Value
  | .ok made => .ok (value made)
  | .error met => .error (error met)

section Result

variable {Error Other Value Made : Type} {error : Error → Error} {other : Other → Other}
  {value : Value → Value} {made : Made → Made}

theorem bind_result {plain disguised : Except Error Value} {next later : Value → Except Error Made}
    (first : disguised = result error value plain)
    (second : ∀ read, later (value read) = result error made (next read)) :
    (disguised >>= later) = result error made (plain >>= next) := by
  subst first
  cases plain with
  | ok read => exact second read
  | error met => rfl

theorem ite_result {condition : Prop} [Decidable condition]
    {plain other disguised otherDisguised : Except Error Value}
    (whenTrue : disguised = result error value plain)
    (whenFalse : otherDisguised = result error value other) :
    (if condition then disguised else otherDisguised) =
      result error value (if condition then plain else other) := by
  split
  · exact whenTrue
  · exact whenFalse

theorem mapError_result {plain disguised : Except Error Value} {map mapDisguised : Error → Other}
    (same : disguised = result error value plain)
    (both : ∀ met, mapDisguised (error met) = other (map met)) :
    disguised.mapError mapDisguised = result other value (plain.mapError map) := by
  subst same
  cases plain with
  | ok read => rfl
  | error met => exact congrArg Except.error (both met)

/-- What does not depend on the place is the same in disguise. -/
theorem mapError_same (made : Except Error Value) {map mapDisguised : Error → Other}
    (both : ∀ met, mapDisguised met = other (map met)) :
    made.mapError mapDisguised = result other id (made.mapError map) := by
  cases made with
  | ok read => rfl
  | error met => exact congrArg Except.error (both met)

end Result

theorem settle_state (state : ParseState) (read : Except Fault (Cursor × Bucket)) :
    (disguise.state state).settle (result disguise.fault disguise.taken read) =
      disguise.ending (state.settle read) := by
  cases read with
  | ok => rfl
  | error fault => exact disguise.fail_state state fault

end Disguise

end ChronoText
