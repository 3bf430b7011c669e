import ChronoText.Parsing.Position
import ChronoText.Parsing.Whole

/-! Where reading gets to and what it leaves alone. Whatever the elements and the text are, reading
goes from places of the text to places of the text, a failure points at one of these places, and the
entries of the bucket that no element stands for stay as they are. -/

set_option autoImplicit false

namespace ChronoText

/-! ## Places -/

namespace Cursor

/-- The second cursor stands in the same text, where the first does or behind it. -/
def Reaches (start next : Cursor) : Prop :=
  ∃ taken, start.rest = taken ++ next.rest ∧
    next.position = start.position + Text.utf8Length taken

namespace Reaches

variable {start middle next : Cursor}

theorem refl (cursor : Cursor) : cursor.Reaches cursor :=
  ⟨[], rfl, rfl⟩

theorem trans (first : start.Reaches middle) (second : middle.Reaches next) :
    start.Reaches next := by
  obtain ⟨taken, rest, position⟩ := first
  obtain ⟨more, later, behind⟩ := second
  refine ⟨taken ++ more, ?_, ?_⟩
  · rw [rest, later, List.append_assoc]
  · rw [behind, position, Text.utf8Length_append, Nat.add_assoc]

theorem advance (cursor : Cursor) (characters : Nat) :
    cursor.Reaches (cursor.advance characters) :=
  ⟨cursor.rest.take characters, (List.take_append_drop characters cursor.rest).symm, rfl⟩

theorem position_le (reaches : start.Reaches next) : start.position ≤ next.position := by
  obtain ⟨taken, _, position⟩ := reaches
  omega

theorem position_le_end (reaches : start.Reaches next) :
    next.position ≤ start.position + Text.utf8Length start.rest := by
  obtain ⟨taken, rest, position⟩ := reaches
  rw [rest, Text.utf8Length_append]
  omega

end Reaches

theorem reaches_of_skip? {expected : String} {cursor next : Cursor}
    (skipped : cursor.skip? expected = some next) : cursor.Reaches next := by
  unfold skip? at skipped
  split at skipped
  · cases skipped
    exact .advance cursor _
  · cases skipped

theorem reaches_of_dropBytes {text rest : List Char} {bytes : Nat}
    (dropped : dropBytes bytes text = .ok rest) :
    ∃ taken, text = taken ++ rest ∧ Text.utf8Length taken = bytes := by
  fun_induction dropBytes bytes text with
  | case1 text =>
      cases dropped
      exact ⟨[], rfl, rfl⟩
  | case2 => cases dropped
  | case3 bytes c text fits ih =>
      obtain ⟨taken, rfl, length⟩ := ih dropped
      refine ⟨c :: taken, rfl, ?_⟩
      rw [Text.utf8Length_cons]
      omega
  | case4 => cases dropped

/-- The places that can be found in a text are those that its start reaches. -/
theorem seek_eq_ok_iff {text : List Char} {position : Nat} {cursor : Cursor} :
    seek text position = .ok cursor ↔
      (start text).Reaches cursor ∧ cursor.position = position := by
  constructor
  · intro found
    unfold seek at found
    cases dropped : dropBytes position text with
    | error place =>
        rw [dropped] at found
        cases found
    | ok rest =>
        rw [dropped] at found
        cases found
        obtain ⟨taken, shape, length⟩ := reaches_of_dropBytes dropped
        exact ⟨⟨taken, shape, by rw [length]; exact (Nat.zero_add position).symm⟩, rfl⟩
  · rintro ⟨⟨taken, shape, place⟩, rfl⟩
    have position : cursor.position = Text.utf8Length taken := by rw [place]; exact Nat.zero_add _
    have text_eq : text = taken ++ cursor.rest := shape
    rw [text_eq, position, seek_append, ← position]

end Cursor

/-! ## Entries of the bucket -/

namespace Bucket

inductive Entry where
  | field (field : DateTimeField)
  | unit (unit : PeriodField)
  | offset
  deriving DecidableEq

def Agree (before after : Bucket) : Entry → Prop
  | .field field => after.fields field = before.fields field
  | .unit unit => after.periodFields unit = before.periodFields unit
  | .offset => after.offset? = before.offset?

/-- Nothing changes but what is under the given entries. -/
def ChangesOnly (entries : Entry → Prop) (before after : Bucket) : Prop :=
  ∀ entry, ¬ entries entry → before.Agree after entry

namespace ChangesOnly

variable {entries : Entry → Prop} {first second third : Bucket}

theorem refl (entries : Entry → Prop) (bucket : Bucket) : ChangesOnly entries bucket bucket := by
  intro entry _
  cases entry <;> rfl

theorem trans (early : ChangesOnly entries first second) (late : ChangesOnly entries second third) :
    ChangesOnly entries first third := by
  intro entry outside
  have early := early entry outside
  have late := late entry outside
  cases entry <;> exact Eq.trans late early

theorem setField {field : DateTimeField} (own : entries (.field field)) (bucket : Bucket)
    (value : Int) : ChangesOnly entries bucket (bucket.setField field value) := by
  intro entry outside
  cases entry with
  | field other =>
      have different : other ≠ field := by
        rintro rfl
        exact outside own
      exact if_neg different
  | unit | offset => rfl

theorem setPeriodField {unit : PeriodField} (own : entries (.unit unit)) (bucket : Bucket)
    (value : Int32) : ChangesOnly entries bucket (bucket.setPeriodField unit value) := by
  intro entry outside
  cases entry with
  | unit other =>
      have different : other ≠ unit := by
        rintro rfl
        exact outside own
      exact if_neg different
  | field | offset => rfl

theorem setOffset (own : entries .offset) (bucket : Bucket) (offset : Offset) :
    ChangesOnly entries bucket (bucket.setOffset offset) := by
  intro entry outside
  cases entry with
  | offset => exact absurd own outside
  | field | unit => rfl

end ChangesOnly

end Bucket

def FieldSelector.entry : FieldSelector → Bucket.Entry
  | dateTime field => .field field
  | period unit => .unit unit

namespace Element

mutual

/-- The element can put a value under the entry. Seconds with milliseconds behind them stand for
both. -/
def stores (entry : Bucket.Entry) : Element → Prop
  | .number field =>
    entry = field.selector.entry ∨ (field.optionalMillis = true ∧ entry = .unit .millis)
  | .name field => entry = .field field.field
  | .fraction _ => entry = .field .nanoOfSecond
  | .twoDigitYear field => entry = .field field.field
  | .offset _ => entry = .offset
  | .composite elements => anyStores entry elements
  | .literal _ | .separator _ => False

def anyStores (entry : Bucket.Entry) : List Element → Prop
  | [] => False
  | element :: rest => element.stores entry ∨ anyStores entry rest

end

end Element

end ChronoText
