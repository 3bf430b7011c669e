import ChronoText.Element.Basic

/-! Pattern letters. A run of one letter stands for an element; the length of the run decides on
the digits of a number or on the width of a name. -/

set_option autoImplicit false

namespace ChronoText.PatternLetter

def isLetter (c : Char) : Bool :=
  ('a' ≤ c && c ≤ 'z') || ('A' ≤ c && c ≤ 'Z')

/-- The most copies of a letter in a row. -/
def mostRepeats : Char → Nat
  | 'Y' | 'y' | 'x' | 'S' => 9
  | 'G' | 'E' | 'M' => 4
  | 'D' => 3
  | 'e' => 1
  | _ => 2

/-- Names are short for up to three letters and long for four. -/
def nameWidth (count : Nat) : NameWidth :=
  if 4 ≤ count then .long else .short

def number (field : DateTimeField) (count maxDigits : Nat) : Element :=
  .number (.ofDateTime field count maxDigits)

/-- Two letters stand for the last two digits of a year, any other number of them for the year. -/
def year (field : DateTimeField) (count : Nat) : Element :=
  if count = 2 then .twoDigitYear ⟨field⟩ else number field count 6

def element? (letter : Char) (count : Nat) : Option Element :=
  match letter with
  | 'G' => some (.name ⟨.era, nameWidth count⟩)
  | 'C' => some (number .centuryOfEra count 4)
  | 'Y' => some (year .yearOfEra count)
  | 'y' => some (year .year count)
  | 'x' => some (year .weekYear count)
  | 'w' => some (number .weekOfWeekYear count 2)
  | 'e' => some (number .dayOfWeek count 1)
  | 'E' => some (.name ⟨.dayOfWeek, nameWidth count⟩)
  | 'M' =>
    if count ≤ 2 then some (number .monthOfYear count 2)
    else some (.name ⟨.monthOfYear, nameWidth count⟩)
  | 'd' => some (number .dayOfMonth count 2)
  | 'D' => some (number .dayOfYear count 3)
  | 'a' => some (.name ⟨.halfDayOfDay, .short⟩)
  | 'K' => some (number .hourOfHalfDay count 2)
  | 'h' => some (number .clockHourOfHalfDay count 2)
  | 'H' => some (number .hourOfDay count 2)
  | 'k' => some (number .clockHourOfDay count 2)
  | 'm' => some (number .minuteOfHour count 2)
  | 's' => some (number .secondOfMinute count 2)
  | 'S' => some (.fraction (.ofDigits count))
  | 'Z' => some (.offset (if count = 1 then .basic else .extended))
  | _ => none

/-- The element of a run of a letter that stands at a position of a pattern. -/
def element (letter : Char) (count position : Nat) : Except Failure Element :=
  match element? letter count with
  | some element => pure element
  | none =>
    throw
      { kind := .unknownLetter
        params := [.character letter]
        position? := some position }

end ChronoText.PatternLetter
