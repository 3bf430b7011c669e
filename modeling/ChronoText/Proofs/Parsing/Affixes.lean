import ChronoText.Parsing.Number
import ChronoText.Proofs.Parsing.Legible
import ChronoText.Proofs.Text.Caseless

/-! Scanning for affixes. A trailing affix that does not start like a number is found right behind
the number it was printed with, and it is not found where another affix or other text stands behind
the next number. -/

set_option autoImplicit false

namespace ChronoText

namespace Text

/-- At some place both texts have a character there, and not the same one up to case. -/
def diverge : List Char → List Char → Bool
  | e :: expected, c :: text => !sameLetter e c || diverge expected text
  | _, _ => false

theorem startsWithCaseless_of_diverge {expected text : List Char}
    (different : diverge expected text = true) (rest : List Char) :
    startsWithCaseless expected (text ++ rest) = false := by
  fun_induction diverge expected text with
  | case1 e expected c text ih =>
      rw [List.cons_append, startsWithCaseless, Bool.and_eq_false_iff]
      rcases Bool.or_eq_true_iff.mp different with now | later
      · exact .inl ((Bool.not_eq_true' _).mp now)
      · exact .inr (ih later)
  | case2 => cases different

theorem startsWithCaseless_append_left (common expected text : List Char) :
    startsWithCaseless (common ++ expected) (common ++ text) = startsWithCaseless expected text := by
  induction common with
  | nil => rfl
  | cons c common ih =>
      rw [List.cons_append, List.cons_append, startsWithCaseless, sameLetter_self, Bool.true_and, ih]

end Text

namespace Affix

variable {affix : Affix}

theorem beforeLetters_of_isNumberCharacter {c : Char} (number : isNumberCharacter c = true) :
    Text.BeforeLetters c := by
  simp only [isNumberCharacter, Bool.or_eq_true, Bool.and_eq_true, decide_eq_true_eq,
    beq_iff_eq] at number
  rcases number with (((⟨low, high⟩ | rfl) | rfl) | rfl) | rfl
  · have low : 48 ≤ c.toNat := low
    have high : c.toNat ≤ 57 := high
    exact ⟨by omega, by omega⟩
  all_goals decide

/-- No form of the affix starts like a number. -/
def startsNoNumber (affix : Affix) : Bool :=
  affix.forms.all fun form => form.toList.head?.any (!isNumberCharacter ·)

/-- Every form of the affix differs from a text before either ends. -/
def divergesFrom (affix : Affix) (text : List Char) : Bool :=
  affix.forms.all fun form => Text.diverge form.toList text

theorem textFor_mem_forms (affix : Affix) (number : Int) : affix.textFor number ∈ affix.forms := by
  cases affix with
  | simple text => exact List.mem_singleton_self text
  | plural one many =>
      simp only [textFor, forms]
      split <;> split <;> simp

/-! ## Where an affix stands -/

theorem starts_eq_false_of_number (clear : affix.startsNoNumber = true) {c : Char}
    (number : isNumberCharacter c = true) (rest : List Char) :
    affix.starts (c :: rest) = false := by
  rw [starts, List.any_eq_false]
  intro form member
  have head := List.all_eq_true.mp clear form member
  cases shape : form.toList with
  | nil => simp [shape] at head
  | cons e others =>
      rw [Bool.not_eq_true]
      refine Text.startsWithCaseless_eq_false others rest
        (.inr (beforeLetters_of_isNumberCharacter number)) ?_
      rintro rfl
      simp [shape, number] at head

theorem distance?_append (clear : affix.startsNoNumber = true) {lead : List Char}
    (numbers : ∀ c ∈ lead, isNumberCharacter c = true) (stop : List Char) :
    affix.distance? (lead ++ stop) = (affix.distance? stop).map (· + lead.length) := by
  induction lead with
  | nil => exact Option.map_id'.symm
  | cons c lead ih =>
      obtain ⟨number, others⟩ := List.forall_mem_cons.mp numbers
      rw [List.cons_append, distance?, starts_eq_false_of_number clear number, number, ih others]
      simp only [Bool.false_eq_true, if_false, if_true, Option.map_map, List.length_cons]
      rfl

theorem starts_textFor (affix : Affix) (number : Int) (rest : List Char) :
    affix.starts ((affix.textFor number).toList ++ rest) = true :=
  List.any_eq_true.mpr ⟨affix.textFor number, affix.textFor_mem_forms number,
    Text.startsWithCaseless_append _ _⟩

theorem textFor_shape (clear : affix.startsNoNumber = true) (number : Int) :
    ∃ c text, (affix.textFor number).toList = c :: text ∧ isNumberCharacter c = false := by
  have head := List.all_eq_true.mp clear _ (affix.textFor_mem_forms number)
  cases shape : (affix.textFor number).toList with
  | nil => simp [shape] at head
  | cons c text =>
      rw [shape] at head
      exact ⟨c, text, rfl, (Bool.not_eq_true' _).mp head⟩

theorem distance?_own (clear : affix.startsNoNumber = true) {lead : List Char}
    (numbers : ∀ c ∈ lead, isNumberCharacter c = true) (number : Int) (rest : List Char) :
    affix.distance? (lead ++ ((affix.textFor number).toList ++ rest)) = some lead.length := by
  have found := affix.starts_textFor number rest
  obtain ⟨c, text, shape, _⟩ := textFor_shape clear number
  rw [distance?_append clear numbers]
  rw [shape, List.cons_append] at found ⊢
  rw [distance?, if_pos found, Option.map_some, Nat.zero_add]

theorem distance?_other (clear : affix.startsNoNumber = true) (lead : List Char)
    (numbers : ∀ c ∈ lead, isNumberCharacter c = true) {c : Char} {text : List Char}
    (stop : isNumberCharacter c = false) (different : affix.divergesFrom (c :: text) = true)
    (rest : List Char) : affix.distance? (lead ++ (c :: text ++ rest)) = none := by
  have missing : affix.starts (c :: (text ++ rest)) = false := by
    rw [starts, List.any_eq_false]
    intro form member
    rw [Bool.not_eq_true]
    exact Text.startsWithCaseless_of_diverge (List.all_eq_true.mp different form member) rest
  rw [distance?_append clear numbers, List.cons_append, distance?, missing, stop]
  rfl

theorem distance?_of_avoids {letter : Char} {text : List Char}
    (avoids : ∀ c ∈ text, Text.sameLetter letter c = false) :
    (simple letter.toString).distance? text = none := by
  induction text with
  | nil => rfl
  | cons c text ih =>
      obtain ⟨own, others⟩ := List.forall_mem_cons.mp avoids
      have missing : (simple letter.toString).starts (c :: text) = false := by
        simp [starts, forms, Char.toString, Text.startsWithCaseless, own]
      rw [distance?, missing, ih others]
      simp

/-! ## Letters as affixes -/

section Letter

variable {letter : Char} (alpha : letter.isAlpha = true)

include alpha

theorem sameLetter_number {c : Char} (number : isNumberCharacter c = true) :
    Text.sameLetter letter c = false := by
  rw [← Bool.not_eq_true]
  intro same
  have low := beforeLetters_of_isNumberCharacter number
  have high := (Text.toNat_of_isAlpha alpha).1
  rw [Text.sameLetter_eq_of_actual low same] at high
  exact absurd high (Nat.not_le.mpr low.2)

theorem startsNoNumber_letter : (simple letter.toString).startsNoNumber = true := by
  have other : isNumberCharacter letter = false := by
    rw [← Bool.not_eq_true]
    intro number
    have different := sameLetter_number alpha number
    rw [Text.sameLetter_self] at different
    cases different
  simp [startsNoNumber, forms, Char.toString, other]

end Letter

/-! ## Which form of an affix is read -/

/-- In front of a text, the form of the affix that was printed is the one that is read. -/
def ReadsBefore (affix : Affix) (rest : List Char) : Prop :=
  ∀ number position,
    affix.skip? ⟨position, (affix.textFor number).toList ++ rest⟩ =
      some ⟨position + Text.utf8Length (affix.textFor number).toList, rest⟩

theorem readsBefore_simple (text : String) (rest : List Char) : (simple text).ReadsBefore rest := by
  intro number position
  have found := Cursor.skip?_append position text rest
  simp only [skip?, forms, textFor, List.findSome?_cons, found]

/-- The longer form is not read in place of the shorter one, unless the rest of it follows. -/
theorem readsBefore_plural {one many ending : String} (longer : many = one ++ ending)
    {rest : List Char} (stop : Text.startsWithCaseless ending.toList rest = false) :
    (plural one many).ReadsBefore rest := by
  intro number position
  have foundOne := Cursor.skip?_append position one rest
  have foundMany := Cursor.skip?_append position many rest
  have noMany : Cursor.skip? ⟨position, one.toList ++ rest⟩ many = none := by
    apply Cursor.skip?_eq_none
    rw [longer, String.toList_append, Text.startsWithCaseless_append_left]
    exact stop
  have order : (plural one many).forms = [many, one] := by
    have some : ending ≠ "" := by
      rintro rfl
      cases stop
    have more : one.utf8ByteSize < many.utf8ByteSize := by
      have size := mt String.utf8ByteSize_eq_zero_iff.mp some
      rw [longer, String.utf8ByteSize_append]
      omega
    rw [forms, if_neg (Nat.not_le.mpr more)]
  unfold skip?
  rw [order]
  by_cases single : number = 1
  · simp only [textFor, single, if_true, List.findSome?_cons, noMany, foundOne]
  · simp only [textFor, single, if_false, List.findSome?_cons, foundMany]

end Affix

end ChronoText
