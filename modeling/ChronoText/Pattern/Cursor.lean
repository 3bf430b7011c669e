import ChronoText.Failure.Failure

/-! Places in a pattern. The cursor knows nothing of the meaning of characters; it counts repeats
and reads quoted runs. Positions in patterns are counts of characters. -/

set_option autoImplicit false

namespace ChronoText

/-- The character that takes the meaning from the one behind it. -/
def escapeCharacter : Char := '\\'

structure PatternCursor where
  /-- The number of characters before the cursor. -/
  index : Nat
  rest : List Char
  deriving DecidableEq

namespace PatternCursor

def start (pattern : List Char) : PatternCursor := ⟨0, pattern⟩

def peek? (cursor : PatternCursor) : Option Char :=
  cursor.rest.head?

def advance (cursor : PatternCursor) (characters : Nat) : PatternCursor :=
  ⟨cursor.index + characters, cursor.rest.drop characters⟩

def next (cursor : PatternCursor) : Except Failure (Char × PatternCursor) :=
  match cursor.rest with
  | c :: rest => pure (c, ⟨cursor.index + 1, rest⟩)
  | [] => throw { kind := .patternEnded, position? := some cursor.index }

def previous (cursor : PatternCursor) : Nat :=
  cursor.index - 1

/-- The cursor behind the characters equal to `c` that follow. -/
def skipRun (cursor : PatternCursor) (c : Char) : PatternCursor :=
  cursor.advance (cursor.rest.takeWhile (· == c)).length

/-- The length of a run of `c` whose first character was just read. -/
def repeatCount (cursor : PatternCursor) (most : Nat) (c : Char) : Except Failure Nat :=
  let count := (cursor.skipRun c).index - cursor.previous
  if most < count then
    throw
      { kind := .tooManyRepeats
        params := [.character c, .count most]
        position? := some cursor.previous }
  else pure count

/-- The character that closes a quoted run: the other of a pair of brackets, and otherwise the
opening character itself. -/
def closingQuote : Char → Char
  | '[' => ']'
  | '\x7b' => '\x7d'
  | '(' => ')'
  | '<' => '>'
  | c => c

inductive QuotedRun where
  | closed (text : List Char) (behind : PatternCursor)
  /-- The pattern ended before the closing quote. -/
  | unclosed (behind : PatternCursor)
  /-- The pattern ended behind an escape character. -/
  | endedInEscape (behind : PatternCursor)
  deriving DecidableEq

namespace QuotedRun

def cons (c : Char) : QuotedRun → QuotedRun
  | closed text behind => closed (c :: text) behind
  | other => other

def behind : QuotedRun → PatternCursor
  | closed _ behind | unclosed behind | endedInEscape behind => behind

end QuotedRun

/-- The text up to a closing quote. A doubled closing quote stands for one, and a character behind
an escape character for itself. -/
def quotedFrom (close : Char) (index : Nat) : List Char → QuotedRun
  | [] => .unclosed ⟨index, []⟩
  | c :: rest =>
    if c = close then
      match rest with
      | d :: rest =>
        if d = close then (quotedFrom close (index + 2) rest).cons close
        else .closed [] ⟨index + 1, d :: rest⟩
      | [] => .closed [] ⟨index + 1, []⟩
    else if c = escapeCharacter then
      match rest with
      | d :: rest => (quotedFrom close (index + 2) rest).cons d
      | [] => .endedInEscape ⟨index + 1, []⟩
    else (quotedFrom close (index + 1) rest).cons c

/-- The quoted run whose opening quote was just read. -/
def quoted (cursor : PatternCursor) (opening : Char) : QuotedRun :=
  quotedFrom (closingQuote opening) cursor.index cursor.rest

/-- The text of the quoted run whose opening quote was just read, or what is wrong with it. -/
def quotedText (cursor : PatternCursor) (opening : Char) : Except Failure (List Char) :=
  match cursor.quoted opening with
  | .closed text _ => pure text
  | .unclosed _ =>
    throw
      { kind := .quoteNotClosed
        params := [.character (closingQuote opening)]
        position? := some cursor.previous }
  | .endedInEscape behind => throw { kind := .escapeAtEnd, position? := some behind.index }

@[simp] theorem QuotedRun.behind_closed (text : List Char) (cursor : PatternCursor) :
    (closed text cursor).behind = cursor := rfl

@[simp] theorem QuotedRun.behind_unclosed (cursor : PatternCursor) :
    (unclosed cursor).behind = cursor := rfl

@[simp] theorem QuotedRun.behind_endedInEscape (cursor : PatternCursor) :
    (endedInEscape cursor).behind = cursor := rfl

@[simp] theorem QuotedRun.behind_cons (c : Char) (run : QuotedRun) :
    (run.cons c).behind = run.behind := by
  cases run <;> rfl

theorem length_quotedFrom_behind_le (close : Char) (index : Nat) (rest : List Char) :
    (quotedFrom close index rest).behind.rest.length ≤ rest.length := by
  fun_induction quotedFrom close index rest <;>
    simp only [QuotedRun.behind_cons, QuotedRun.behind_closed, QuotedRun.behind_unclosed,
      QuotedRun.behind_endedInEscape, List.length_cons, List.length_nil] <;>
    omega

theorem length_quoted_behind_le (cursor : PatternCursor) (opening : Char) :
    (cursor.quoted opening).behind.rest.length ≤ cursor.rest.length :=
  length_quotedFrom_behind_le _ _ _

theorem length_advance_le (cursor : PatternCursor) (characters : Nat) :
    (cursor.advance characters).rest.length ≤ cursor.rest.length := by
  simp only [advance, List.length_drop]
  omega

end PatternCursor

end ChronoText
