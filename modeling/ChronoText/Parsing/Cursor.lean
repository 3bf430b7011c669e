import ChronoText.Text.Caseless
import ChronoText.Text.Length

/-! Places in the text that is read. A cursor holds the number of bytes before it and the
characters after it, so it stands between two characters, and what is read from it depends only on
what follows. -/

set_option autoImplicit false

namespace ChronoText

structure Cursor where
  position : Nat
  rest : List Char
  deriving DecidableEq

namespace Cursor

def start (text : List Char) : Cursor := ⟨0, text⟩

/-- Why no cursor can stand at a position. -/
inductive Misplacement where
  | insideCharacter
  | behindEnd
  deriving DecidableEq

/-- The text after a number of bytes. -/
def dropBytes : Nat → List Char → Except Misplacement (List Char)
  | 0, rest => pure rest
  | _ + 1, [] => throw .behindEnd
  | bytes + 1, c :: rest =>
    if c.utf8Size ≤ bytes + 1 then dropBytes (bytes + 1 - c.utf8Size) rest
    else throw .insideCharacter

/-- The cursor at a position, if a character starts there or the text ends. -/
def seek (text : List Char) (position : Nat) : Except Misplacement Cursor :=
  (⟨position, ·⟩) <$> dropBytes position text

def advance (cursor : Cursor) (characters : Nat) : Cursor :=
  ⟨cursor.position + Text.utf8Length (cursor.rest.take characters),
    cursor.rest.drop characters⟩

/-- The cursor behind an expected text, if that follows up to case. -/
def skip? (cursor : Cursor) (expected : String) : Option Cursor :=
  if Text.startsWithCaseless expected.toList cursor.rest then
    some (cursor.advance expected.toList.length)
  else none

/-- What follows a whole number of characters starts at a place of the text. -/
@[simp] theorem dropBytes_append (leading rest : List Char) :
    dropBytes (Text.utf8Length leading) (leading ++ rest) = .ok rest := by
  induction leading with
  | nil => cases rest <;> rfl
  | cons c leading ih =>
      obtain ⟨bytes, size⟩ := Nat.exists_eq_add_one.mpr
        (Nat.add_pos_left c.utf8Size_pos (Text.utf8Length leading))
      have enough : c.utf8Size ≤ bytes + 1 := by omega
      have behind : bytes + 1 - c.utf8Size = Text.utf8Length leading := by omega
      simp only [Text.utf8Length_cons, List.cons_append, size, dropBytes, enough, if_true, behind,
        ih]

theorem seek_append (leading rest : List Char) :
    seek (leading ++ rest) (Text.utf8Length leading) =
      .ok ⟨Text.utf8Length leading, rest⟩ := by
  simp only [seek, dropBytes_append]
  rfl

@[simp] theorem seek_zero (text : List Char) : seek text 0 = .ok (start text) :=
  seek_append [] text

@[simp] theorem rest_advance (cursor : Cursor) (characters : Nat) :
    (cursor.advance characters).rest = cursor.rest.drop characters := rfl

@[simp] theorem advance_zero (cursor : Cursor) : cursor.advance 0 = cursor := by
  simp [advance]

end Cursor

end ChronoText
