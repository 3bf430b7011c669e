import ChronoText.Pattern.Cursor
import ChronoText.Pattern.Letter

/-! Compilation of patterns into elements. A pattern is a sequence of tokens: a run of a letter, a
percent sign and a letter, an escape character and any character, a quoted run, or any other
character. A number right before digits of another element is read with a fixed width, so that
fields can stand side by side. -/

set_option autoImplicit false

namespace ChronoText.Pattern

/-- The element of a percent sign at `index` and a letter, and the cursor behind them. -/
def percentToken (index : Nat) (cursor : PatternCursor) :
    Except Failure (Option Element × PatternCursor) := do
  match cursor.rest with
  | [] => throw { kind := .percentAtEnd, position? := some index }
  | c :: _ =>
    if c = '%' then throw { kind := .percentDoubled, position? := some index }
    else if PatternLetter.isLetter c then
      pure (some (← PatternLetter.element c 1 (index + 1)), cursor.advance 1)
    else
      throw
        { kind := .percentBeforeNonLetter
          params := [.character c]
          position? := some (index + 1) }

/-- The element of an escape character at `index` and the one behind it. -/
def escapeToken (index : Nat) (cursor : PatternCursor) :
    Except Failure (Option Element × PatternCursor) :=
  match cursor.rest with
  | [] => throw { kind := .escapeAtEnd, position? := some index }
  | c :: _ => pure (some (.literal ⟨.escaped, c.toString⟩), cursor.advance 1)

/-- The element of a quoted run, none if the run is empty. -/
def quotedToken (opening : Char) (cursor : PatternCursor) :
    Except Failure (Option Element × PatternCursor) := do
  let text ← cursor.quotedText opening
  let element? := if text = [] then none else some (.literal ⟨.quoted, String.ofList text⟩)
  pure (element?, (cursor.quoted opening).behind)

/-- The element of a run of a letter that started at `index`. -/
def letterToken (letter : Char) (index : Nat) (cursor : PatternCursor) :
    Except Failure (Option Element × PatternCursor) := do
  let count ← cursor.repeatCount (PatternLetter.mostRepeats letter) letter
  pure (some (← PatternLetter.element letter count index), cursor.skipRun letter)

/-- The element of the token that starts with the character `c` at `index`, and the cursor behind
the token; `cursor` stands behind `c`. -/
def token (c : Char) (index : Nat) (cursor : PatternCursor) :
    Except Failure (Option Element × PatternCursor) :=
  if c = '%' then percentToken index cursor
  else if c = escapeCharacter then escapeToken index cursor
  else if c = '\'' ∨ c = '"' then quotedToken c cursor
  else if c = ':' then pure (some (.literal .timeSeparator), cursor)
  else if c = '/' then pure (some (.literal .dateSeparator), cursor)
  else if c = '.' ∧ cursor.peek? = some 'S' then pure (some (.literal .decimalSeparator), cursor)
  else if PatternLetter.isLetter c then letterToken c index cursor
  else pure (some (.literal ⟨.plain, c.toString⟩), cursor)

/-- A token is never longer than the pattern. -/
theorem length_token_le {c : Char} {index : Nat} {cursor next : PatternCursor}
    {element? : Option Element} (read : token c index cursor = .ok (element?, next)) :
    next.rest.length ≤ cursor.rest.length := by
  have advanced := cursor.length_advance_le
  have quoted := cursor.length_quoted_behind_le
  unfold token percentToken escapeToken quotedToken letterToken at read
  simp only [PatternCursor.skipRun, bind, Except.bind, pure, Except.pure, throw, throwThe,
    MonadExceptOf.throw] at read
  grind

/-- The elements of the tokens of a pattern, of which `index` characters come before. -/
def compileFrom (index : Nat) (pattern : List Char) : Except Failure (List Element) :=
  match pattern with
  | [] => pure []
  | c :: rest =>
    match read : token c index ⟨index + 1, rest⟩ with
    | .error failure => throw failure
    | .ok (element?, next) => do
      have := length_token_le read
      let elements ← compileFrom next.index next.rest
      pure (element?.toList ++ elements)
termination_by pattern.length
decreasing_by
  dsimp only at this
  rw [List.length_cons]
  omega

/-- Gives a fixed width to each number that stands right before digits of another element. -/
def fixWidths : List Element → List Element
  | .number field :: next :: rest =>
    .number (if next.isNumeric then { field with fixedWidth := true } else field)
      :: fixWidths (next :: rest)
  | element :: rest => element :: fixWidths rest
  | [] => []

def compile (pattern : List Char) : Except Failure (List Element) :=
  fixWidths <$> compileFrom 0 pattern

end ChronoText.Pattern
