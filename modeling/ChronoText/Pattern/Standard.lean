import ChronoText.Culture
import ChronoText.Pattern.Compile

/-! Standard patterns, which a single character stands for. Some are the same everywhere, the others
are made of the patterns of a culture. -/

set_option autoImplicit false

namespace ChronoText

inductive StandardPattern where
  /-- Date, time to the nanosecond and offset. -/
  | roundTrip
  /-- Date and time to the second. -/
  | sortable
  | shortDate
  | shortTime
  | longTime
  | generalShort
  | generalLong
  deriving DecidableEq

namespace StandardPattern

def ofLetter? : Char → Option StandardPattern
  | 'o' => some roundTrip
  | 's' => some sortable
  | 'd' => some shortDate
  | 't' => some shortTime
  | 'T' => some longTime
  | 'g' => some generalShort
  | 'G' => some generalLong
  | _ => none

def letter : StandardPattern → Char
  | roundTrip => 'o'
  | sortable => 's'
  | shortDate => 'd'
  | shortTime => 't'
  | longTime => 'T'
  | generalShort => 'g'
  | generalLong => 'G'

def ofText? (text : String) : Option StandardPattern :=
  match text.toList with
  | [c] => ofLetter? c
  | _ => none

def expansion (standard : StandardPattern) (culture : Culture) : String :=
  match standard with
  | roundTrip => "yyyy'-'MM'-'dd'T'HH':'mm':'ss'.'SSSSSSSSSZZ"
  | sortable => "yyyy'-'MM'-'dd'T'HH':'mm':'ss"
  | shortDate => culture.shortDatePattern
  | shortTime => culture.shortTimePattern
  | longTime => culture.longTimePattern
  | generalShort => culture.shortDatePattern ++ " " ++ culture.shortTimePattern
  | generalLong => culture.shortDatePattern ++ " " ++ culture.longTimePattern

@[simp] theorem ofLetter?_letter (standard : StandardPattern) :
    ofLetter? standard.letter = some standard := by
  cases standard <;> rfl

end StandardPattern

/-- The elements of a pattern in a culture: a pattern of one character names a standard pattern. -/
def Pattern.elements (culture : Culture) (pattern : String) : Except Failure (List Element) :=
  match pattern.toList with
  | [] => throw { kind := .emptyPattern }
  | [c] =>
    match StandardPattern.ofLetter? c with
    | some standard => Pattern.compile (standard.expansion culture).toList
    | none =>
      throw
        { kind := .unknownStandardPattern
          params := [.character c]
          position? := some 0 }
  | characters => Pattern.compile characters

end ChronoText
