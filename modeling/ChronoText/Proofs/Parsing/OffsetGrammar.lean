import ChronoText.Proofs.Parsing.Elements
import ChronoText.Proofs.Parsing.Places
import ChronoText.Proofs.Parsing.Resolution

/-! The grammar of offsets. An offset is written as the letter Z, or as a sign, the hours and the
minutes, behind which a further part of two digits always counts as the seconds. Reading takes just
the texts of this grammar, and what was printed as long as what follows is not such a part. -/

set_option autoImplicit false

namespace ChronoText

/-! ## Texts that are taken -/

namespace Cursor

/-- The second cursor stands behind a text with which what follows the first one starts. -/
def Takes (start : Cursor) (taken : List Char) (next : Cursor) : Prop :=
  start.rest = taken ++ next.rest ∧ next.position = start.position + Text.utf8Length taken

variable {start middle next : Cursor} {first second taken : List Char}

theorem Takes.append (early : start.Takes first middle) (late : middle.Takes second next) :
    start.Takes (first ++ second) next := by
  obtain ⟨rest, position⟩ := early
  obtain ⟨later, behind⟩ := late
  refine ⟨?_, ?_⟩
  · rw [rest, later, List.append_assoc]
  · rw [behind, position, Text.utf8Length_append, Nat.add_assoc]

theorem Takes.split (both : start.Takes (first ++ second) next) :
    ∃ middle, start.Takes first middle ∧ middle.Takes second next := by
  obtain ⟨rest, position⟩ := both
  refine ⟨⟨start.position + Text.utf8Length first, second ++ next.rest⟩, ⟨?_, rfl⟩, rfl, ?_⟩
  · rw [rest, List.append_assoc]
  · rw [position, Text.utf8Length_append, Nat.add_assoc]

/-- A text is taken in one way. -/
theorem Takes.eq_advance (takes : start.Takes taken next) : next = start.advance taken.length := by
  obtain ⟨position, rest⟩ := start
  obtain ⟨behind, left⟩ := next
  obtain ⟨shape, place⟩ := takes
  dsimp only at shape place
  rw [shape, place, advance_append]

theorem takes_advance (isPrefix : taken <+: start.rest) :
    start.Takes taken (start.advance taken.length) := by
  obtain ⟨left, shape⟩ := isPrefix
  obtain ⟨position, rest⟩ := start
  obtain rfl : taken ++ left = rest := shape
  rw [advance_append]
  exact ⟨rfl, rfl⟩

theorem takes_nil_iff : start.Takes [] next ↔ next = start := by
  constructor
  · intro takes
    rw [takes.eq_advance]
    exact advance_zero start
  · rintro rfl
    exact ⟨rfl, rfl⟩

end Cursor

/-! ## Parts of offsets -/

theorem Offset.ofComponents_eq_ok_iff {sign : Sign} {hours minutes seconds : Nat}
    {offset : Offset} :
    ofComponents sign hours minutes seconds = .ok offset ↔
      minutes ≤ 59 ∧ seconds ≤ 59 ∧
        offset.seconds = (hours * 3600 + minutes * 60 + seconds : Nat) * sign.factor := by
  have least := offset.seconds_ge
  have greatest := offset.seconds_le
  unfold ofComponents ofSeconds
  constructor
  · intro made
    split at made
    · cases made
    next inParts =>
    split at made
    · cases made
      exact ⟨by omega, by omega, rfl⟩
    · cases made
  · rintro ⟨minutesLe, secondsLe, total⟩
    rw [if_neg (by omega), dif_pos (by omega)]
    obtain ⟨own, _, _⟩ := offset
    obtain rfl : own = _ := total
    rfl

namespace OffsetStyle

/-- The text of the minutes or of the seconds, behind the separator of the style. -/
def part (style : OffsetStyle) (value : Nat) : List Char :=
  style.separator?.toList ++ Text.padded '0' 2 value

/-- The text starts with a part, of whatever value. -/
def StartsWithPart (style : OffsetStyle) (text : List Char) : Prop :=
  ∃ value < 100, style.part value <+: text

/-- The ways to write a number of seconds in front of a text, as hours and minutes, and as seconds
where there are any. If there are none, the text does not start with what would pass for them. -/
inductive WritesParts (style : OffsetStyle) (following : List Char) : List Char → Nat → Prop where
  | toTheMinute {hours minutes : Nat} :
      hours < 100 → minutes ≤ 59 → ¬ style.StartsWithPart following →
      WritesParts style following (Text.padded '0' 2 hours ++ style.part minutes)
        (hours * 3600 + minutes * 60)
  | toTheSecond {hours minutes seconds : Nat} :
      hours < 100 → minutes ≤ 59 → seconds ≤ 59 →
      WritesParts style following
        (Text.padded '0' 2 hours ++ style.part minutes ++ style.part seconds)
        (hours * 3600 + minutes * 60 + seconds)

/-- The ways to write an offset in front of a text: as the letter Z, which stands for UTC, or as a
sign and the number of seconds. As it is that of an offset, the number is never larger than that of
eighteen hours. -/
inductive Writes (style : OffsetStyle) (following : List Char) : List Char → Offset → Prop where
  | letter {c : Char} : c = 'Z' ∨ c = 'z' → Writes style following [c] .utc
  | ahead {parts : List Char} {offset : Offset} {size : Nat} :
      style.WritesParts following parts size → offset.seconds = size →
      Writes style following ('+' :: parts) offset
  | behind {parts : List Char} {offset : Offset} {size : Nat} :
      style.WritesParts following parts size → offset.seconds = -size →
      Writes style following ('-' :: parts) offset

variable {style : OffsetStyle} {cursor next : Cursor} {value : Nat}

theorem digitChar_of_isDigit {c : Char} (digit : c.isDigit = true) :
    Text.digitChar '0' (c.toNat - '0'.toNat) = c ∧ c.toNat - '0'.toNat < 10 := by
  rw [Char.isDigit_iff_toNat] at digit
  have zero : '0'.toNat = 48 := rfl
  have nine : '9'.toNat = 57 := rfl
  have code : '0'.toNat + (c.toNat - '0'.toNat) = c.toNat := by omega
  have valid : c.toNat.isValidChar := c.valid
  rw [Text.digitChar, code, if_pos valid, Char.ofNat_toNat]
  exact ⟨rfl, by omega⟩

/-- The digits of a number of two digits are those it is printed with. -/
theorem twoDigits?_eq_some_iff {text : List Char} :
    twoDigits? text = some value ↔ value < 100 ∧ Text.padded '0' 2 value <+: text := by
  constructor
  · intro read
    unfold twoDigits? at read
    split at read
    · next tens ones rest =>
        split at read
        · next digits =>
            rw [Bool.and_eq_true] at digits
            obtain ⟨tensChar, tensLt⟩ := digitChar_of_isDigit digits.1
            obtain ⟨onesChar, onesLt⟩ := digitChar_of_isDigit digits.2
            cases read
            generalize tens.toNat - '0'.toNat = upper at *
            generalize ones.toNat - '0'.toNat = lower at *
            have small : 10 * upper + lower < 100 := by omega
            have first : (10 * upper + lower) / 10 = upper := by omega
            have second : (10 * upper + lower) % 10 = lower := by omega
            refine ⟨small, rest, ?_⟩
            rw [Text.padded_eq_map, Text.paddedDigits_two small, first, second]
            simp only [List.map_cons, List.map_nil, tensChar, onesChar, List.cons_append,
              List.nil_append]
        · cases read
    · cases read
  · rintro ⟨small, rest, rfl⟩
    exact twoDigits?_padded small rest

theorem twoDigits_eq_ok_iff :
    twoDigits cursor = .ok (value, next) ↔
      value < 100 ∧ cursor.Takes (Text.padded '0' 2 value) next := by
  unfold twoDigits
  constructor
  · intro read
    split at read
    · next found =>
        cases read
        obtain ⟨small, starts⟩ := twoDigits?_eq_some_iff.mp found
        have takes := Cursor.takes_advance starts
        rw [length_padded_two small] at takes
        exact ⟨small, takes⟩
    · cases read
  · rintro ⟨small, takes⟩
    rw [twoDigits?_eq_some_iff.mpr ⟨small, next.rest, takes.1.symm⟩, takes.eq_advance,
      length_padded_two small]
    rfl

theorem skipSeparator_eq_ok_iff :
    style.skipSeparator cursor = .ok next ↔ cursor.Takes style.separator?.toList next := by
  cases style with
  | basic =>
      show Except.ok cursor = Except.ok next ↔ cursor.Takes [] next
      rw [Cursor.takes_nil_iff, Except.ok.injEq, eq_comm]
  | extended =>
      constructor
      · intro skipped
        simp only [skipSeparator, separator?] at skipped
        split at skipped
        · next found =>
            cases skipped
            obtain ⟨left, shape⟩ := List.head?_eq_some_iff.mp found
            exact Cursor.takes_advance ⟨left, shape.symm⟩
        · cases skipped
      · intro takes
        have found : cursor.rest.head? = some ':' := by
          rw [takes.1]
          rfl
        simp only [skipSeparator, separator?, found, if_true]
        exact congrArg Except.ok takes.eq_advance.symm

theorem secondsBehind?_eq_some_iff {text : List Char} :
    style.secondsBehind? text = some value ↔ value < 100 ∧ style.part value <+: text := by
  cases style with
  | basic => exact twoDigits?_eq_some_iff
  | extended =>
      have colon : part .extended value = ':' :: Text.padded '0' 2 value := rfl
      rw [colon]
      cases text with
      | nil => simp [secondsBehind?, separator?]
      | cons c rest =>
          by_cases same : c = ':'
          · subst same
            rw [List.cons_prefix_cons, eq_self, true_and, ← twoDigits?_eq_some_iff]
            rfl
          · have other : ¬ ':' = c := fun colon => same colon.symm
            simp [secondsBehind?, separator?, same, other, List.cons_prefix_cons]

theorem secondsBehind?_eq_none_iff {text : List Char} :
    style.secondsBehind? text = none ↔ ¬ style.StartsWithPart text := by
  rw [Option.eq_none_iff_forall_ne_some]
  simp only [StartsWithPart, not_exists, not_and, ne_eq, secondsBehind?_eq_some_iff]

/-- A part that follows counts as the seconds. -/
theorem optionalSeconds_of_takes {seconds : Nat} (small : seconds < 100)
    (takes : cursor.Takes (style.part seconds) next) :
    style.optionalSeconds cursor = (seconds, next) := by
  obtain ⟨position, rest⟩ := cursor
  obtain ⟨behind, left⟩ := next
  obtain ⟨shape, place⟩ := takes
  dsimp only at shape place
  have read := optionalSeconds_some style small position left
  rw [shape, place, part, List.append_assoc, read, Text.utf8Length_append, Nat.add_assoc]

theorem optionalSeconds_of_not_startsWithPart (stop : ¬ style.StartsWithPart cursor.rest) :
    style.optionalSeconds cursor = (0, cursor) :=
  optionalSeconds_none (secondsBehind?_eq_none_iff.mpr stop) cursor.position

/-! ## Offsets -/

variable {offset : Offset}

/-- What is read once the hours, the minutes and the seconds have been taken. -/
theorem readParts_of_takes {sign : Sign} {hours minutes seconds : Nat} {behindMinutes : Cursor}
    (hoursLt : hours < 100) (minutesLe : minutes ≤ 59) (secondsLe : seconds ≤ 59)
    (takes : (cursor.advance 1).Takes (Text.padded '0' 2 hours ++ style.part minutes) behindMinutes)
    (optional : style.optionalSeconds behindMinutes = (seconds, next))
    (total : offset.seconds = (hours * 3600 + minutes * 60 + seconds : Nat) * sign.factor) :
    style.readParts sign cursor = .ok (offset, next) := by
  obtain ⟨behindHours, takesHours, takesMinutes⟩ := takes.split
  obtain ⟨behindSeparator, takesSeparator, takesDigits⟩ := takesMinutes.split
  have readHours := twoDigits_eq_ok_iff.mpr ⟨hoursLt, takesHours⟩
  have skipped := skipSeparator_eq_ok_iff.mpr takesSeparator
  have readMinutes := twoDigits_eq_ok_iff.mpr ⟨by omega, takesDigits⟩
  have made := Offset.ofComponents_eq_ok_iff.mpr ⟨minutesLe, secondsLe, total⟩
  simp only [readParts, readHours, skipped, readMinutes, optional, made, bind, Except.bind]
  rfl

/-- Behind a sign just the parts of the grammar are taken. -/
theorem readParts_eq_ok_iff {sign : Sign} :
    style.readParts sign cursor = .ok (offset, next) ↔
      ∃ parts size, (cursor.advance 1).Takes parts next ∧
        style.WritesParts next.rest parts size ∧ offset.seconds = size * sign.factor := by
  constructor
  · intro read
    unfold readParts at read
    obtain ⟨⟨hours, behindHours⟩, readHours, read⟩ := bind_ok read
    obtain ⟨hoursLt, takesHours⟩ := twoDigits_eq_ok_iff.mp readHours
    obtain ⟨behindSeparator, skipped, read⟩ := bind_ok read
    obtain ⟨⟨minutes, behindMinutes⟩, readMinutes, read⟩ := bind_ok read
    obtain ⟨_, takesDigits⟩ := twoDigits_eq_ok_iff.mp readMinutes
    have takesMinutes : behindHours.Takes (style.part minutes) behindMinutes :=
      (skipSeparator_eq_ok_iff.mp skipped).append takesDigits
    have takes := takesHours.append takesMinutes
    dsimp only at read
    split at read
    · next made =>
        cases read
        obtain ⟨minutesLe, secondsLe, total⟩ := Offset.ofComponents_eq_ok_iff.mp made
        by_cases further : style.StartsWithPart behindMinutes.rest
        · obtain ⟨seconds, small, starts⟩ := further
          have takesSeconds := Cursor.takes_advance starts
          rw [optionalSeconds_of_takes small takesSeconds] at secondsLe total ⊢
          exact ⟨_, _, takes.append takesSeconds, .toTheSecond hoursLt minutesLe secondsLe, total⟩
        · rw [optionalSeconds_of_not_startsWithPart further] at total ⊢
          rw [Nat.add_zero] at total
          exact ⟨_, _, takes, .toTheMinute hoursLt minutesLe further, total⟩
    · cases read
  · rintro ⟨parts, size, takes, written, total⟩
    cases written with
    | toTheMinute hoursLt minutesLe stop =>
        refine readParts_of_takes hoursLt minutesLe (Nat.zero_le _) takes
          (optionalSeconds_of_not_startsWithPart stop) ?_
        rw [Nat.add_zero, total]
    | @toTheSecond hours minutes seconds hoursLt minutesLe secondsLe =>
        obtain ⟨behindMinutes, time, takesSeconds⟩ := takes.split
        exact readParts_of_takes hoursLt minutesLe secondsLe time
          (optionalSeconds_of_takes (by omega) takesSeconds) total

/-- Just the texts of the grammar are taken. -/
theorem readOffset_eq_ok_iff :
    style.readOffset cursor = .ok (offset, next) ↔
      ∃ taken, cursor.Takes taken next ∧ style.Writes next.rest taken offset := by
  have takesFirst {c : Char} (first : cursor.rest.head? = some c) :
      cursor.Takes [c] (cursor.advance 1) := by
    obtain ⟨body, shape⟩ := List.head?_eq_some_iff.mp first
    exact Cursor.takes_advance ⟨body, shape.symm⟩
  constructor
  · intro read
    unfold readOffset at read
    split at read
    · next zulu =>
        cases read
        exact ⟨_, takesFirst zulu, .letter (.inl rfl)⟩
    · next zulu =>
        cases read
        exact ⟨_, takesFirst zulu, .letter (.inr rfl)⟩
    · next plus =>
        obtain ⟨parts, size, takes, written, total⟩ := readParts_eq_ok_iff.mp read
        exact ⟨_, (takesFirst plus).append takes, .ahead written (total.trans (Int.mul_one _))⟩
    · next minus =>
        obtain ⟨parts, size, takes, written, total⟩ := readParts_eq_ok_iff.mp read
        exact ⟨_, (takesFirst minus).append takes, .behind written (total.trans (Int.mul_neg_one _))⟩
    · cases read
  · rintro ⟨taken, takes, written⟩
    have first : cursor.rest.head? = (taken ++ next.rest).head? := by rw [takes.1]
    have behindFirst {c : Char} {parts : List Char} (shape : taken = c :: parts) :
        (cursor.advance 1).Takes parts next := by
      subst shape
      obtain ⟨middle, early, late⟩ : ∃ middle, cursor.Takes [c] middle ∧ middle.Takes parts next :=
        Cursor.Takes.split takes
      rwa [show middle = cursor.advance 1 from early.eq_advance] at late
    unfold readOffset
    cases written with
    | letter zulu =>
        rw [takes.eq_advance]
        rcases zulu with rfl | rfl <;> rw [first] <;> rfl
    | ahead written total =>
        rw [first]
        exact readParts_eq_ok_iff.mpr
          ⟨_, _, behindFirst rfl, written, total.trans (Int.mul_one _).symm⟩
    | behind written total =>
        rw [first]
        exact readParts_eq_ok_iff.mpr
          ⟨_, _, behindFirst rfl, written, total.trans (Int.mul_neg_one _).symm⟩

/-! ## Elements -/

theorem parse_eq_advanced_iff {settings : ParseSettings} {state after : ParseState} :
    Element.parse settings cursor state (.offset style) = (.advanced next, after) ↔
      ∃ taken offset, cursor.Takes taken next ∧ style.Writes next.rest taken offset ∧
        after = { state with bucket := state.bucket.setOffset offset } := by
  rw [Element.parse, OffsetStyle.read]
  constructor
  · intro read
    cases result : style.readOffset cursor with
    | error fault =>
        rw [result] at read
        cases read
    | ok found =>
        rw [result] at read
        cases read
        obtain ⟨taken, takes, written⟩ := readOffset_eq_ok_iff.mp result
        exact ⟨taken, found.1, takes, written, rfl⟩
  · rintro ⟨taken, offset, takes, written, rfl⟩
    rw [readOffset_eq_ok_iff.mpr ⟨taken, takes, written⟩]
    rfl

theorem dvd_seconds_of_components {offset : Offset} (toTheMinute : offset.components.2.2 = 0) :
    60 ∣ offset.seconds := by
  simp only [Offset.components] at toTheMinute
  omega

/-- Reading an offset gets on just where a text of the grammar follows, greedily with the seconds; it
takes that text and stores the offset it stands for. In particular it takes what was printed of an
offset, and no more, in front of any text with which a printed offset without seconds does not seem
to go on. -/
theorem parse_iff_writes :
    (∀ (style : OffsetStyle) (settings : ParseSettings) (cursor next : Cursor)
        (state after : ParseState),
      Element.parse settings cursor state (.offset style) = (.advanced next, after) ↔
        ∃ taken offset, cursor.Takes taken next ∧ style.Writes next.rest taken offset ∧
          after = { state with bucket := state.bucket.setOffset offset }) ∧
    ∀ (style : OffsetStyle) (settings : ParseSettings) (context : PrintContext) (offset : Offset)
        (position : Nat) (following : List Char) (state : ParseState),
      context.offset? = some offset → (60 ∣ offset.seconds → ¬ style.StartsWithPart following) →
      let text := Element.print context (.offset style)
      Element.parse settings ⟨position, text ++ following⟩ state (.offset style) =
        (.advanced ⟨position + Text.utf8Length text, following⟩,
          { state with bucket := state.bucket.setOffset offset }) := by
  refine ⟨fun _ _ _ _ _ _ => parse_eq_advanced_iff, ?_⟩
  intro style settings context offset position following state shown stop
  refine readsBack shown ?_ position state
  by_cases toTheMinute : offset.components.2.2 = 0
  · exact .inr (secondsBehind?_eq_none_iff.mpr (stop (dvd_seconds_of_components toTheMinute)))
  · exact .inl toTheMinute

/-- Half an hour and some seconds behind UTC, and an hour and a half before what is no second part. -/
theorem parse_iff_writes_behind :
    Element.parse { culture := .invariant } ⟨3, "-00:30:15Z".toList⟩ {} (.offset .extended) =
      (.advanced ⟨12, ['Z']⟩, { bucket := Bucket.empty.setOffset ⟨-1815, by decide, by decide⟩ }) ∧
    let context : PrintContext :=
      ⟨.invariant, .dateTime .unixEpoch (some ⟨-5400, by decide, by decide⟩) (Iso.calendar 0)⟩
    let text := Element.print context (.offset .basic)
    Element.parse { culture := .invariant } ⟨7, text ++ "7h".toList⟩ {} (.offset .basic) =
      (.advanced ⟨7 + Text.utf8Length text, "7h".toList⟩,
        { bucket := Bucket.empty.setOffset ⟨-5400, by decide, by decide⟩ }) := by
  have text : "00:30:15".toList = Text.padded '0' 2 0 ++ part .extended 30 ++ part .extended 15 := by
    decide +kernel
  have written : WritesParts .extended ['Z'] "00:30:15".toList (0 * 3600 + 30 * 60 + 15) :=
    text ▸ .toTheSecond (by decide) (by decide) (by decide)
  refine ⟨(parse_iff_writes.1 _ _ _ _ _ _).mpr ⟨_, _, ⟨rfl, rfl⟩, .behind written rfl, rfl⟩, ?_⟩
  exact parse_iff_writes.2 .basic _ _ _ 7 "7h".toList {} rfl
    fun _ => secondsBehind?_eq_none_iff.mp rfl

end OffsetStyle

end ChronoText
