import ChronoText.Field.DateTimeField

/-! Cultures: the digits, signs, separators, names and standard patterns that a format takes from
the surroundings in which it is used. -/

set_option autoImplicit false

namespace ChronoText

/-- Whether a name is written in full or shortened. -/
inductive NameWidth where
  | short
  | long
  deriving DecidableEq

/-- The names of months from January, of days from Monday, and of the eras and half days in
order. -/
structure NameTable where
  months : Vector String 12
  monthsShort : Vector String 12
  days : Vector String 7
  daysShort : Vector String 7
  eras : Vector String 2
  erasShort : Vector String 2
  halfDays : Vector String 2
  deriving DecidableEq

namespace NameTable

def english : NameTable where
  months := #v["January", "February", "March", "April", "May", "June", "July", "August",
    "September", "October", "November", "December"]
  monthsShort := #v["Jan", "Feb", "Mar", "Apr", "May", "Jun", "Jul", "Aug", "Sep", "Oct", "Nov",
    "Dec"]
  days := #v["Monday", "Tuesday", "Wednesday", "Thursday", "Friday", "Saturday", "Sunday"]
  daysShort := #v["Mon", "Tue", "Wed", "Thu", "Fri", "Sat", "Sun"]
  eras := #v["Before Christ", "Anno Domini"]
  erasShort := #v["BC", "AD"]
  halfDays := #v["AM", "PM"]

/-- The names of a field in the order of its values, which start at the least value of its range.
Fields other than months, days of the week, eras and half days have none. -/
def names (table : NameTable) : DateTimeField → NameWidth → List String
  | .monthOfYear, .long => table.months.toList
  | .monthOfYear, .short => table.monthsShort.toList
  | .dayOfWeek, .long => table.days.toList
  | .dayOfWeek, .short => table.daysShort.toList
  | .era, .long => table.eras.toList
  | .era, .short => table.erasShort.toList
  | .halfDayOfDay, _ => table.halfDays.toList
  | _, _ => []

end NameTable

structure Culture where
  locale : String
  /-- The first of the ten consecutive characters that write digits. -/
  zeroDigit : Char
  decimalSeparator : String
  timeSeparator : String
  dateSeparator : String
  positiveSign : String
  negativeSign : String
  names : NameTable
  shortDatePattern : String
  shortTimePattern : String
  longTimePattern : String
  deriving DecidableEq

namespace Culture

def invariant : Culture where
  locale := "und"
  zeroDigit := '0'
  decimalSeparator := "."
  timeSeparator := ":"
  dateSeparator := "/"
  positiveSign := "+"
  negativeSign := "-"
  names := .english
  shortDatePattern := "MM/dd/yyyy"
  shortTimePattern := "HH:mm"
  longTimePattern := "HH:mm:ss"

instance : Inhabited Culture := ⟨invariant⟩

def english : Culture :=
  { invariant with
    locale := "en-US"
    shortDatePattern := "M/d/yyyy"
    shortTimePattern := "h:mm a"
    longTimePattern := "h:mm:ss a" }

/-- The values of a field that has names, from the least on, each with its name. -/
def valueNames (culture : Culture) (field : DateTimeField) (width : NameWidth) :
    List (Int × String) :=
  let least := (field.parseRange?.map (·.1)).getD 0
  (culture.names.names field width).mapIdx fun index name => (least + index, name)

def fieldName? (culture : Culture) (field : DateTimeField) (value : Int) (width : NameWidth) :
    Option String :=
  (culture.valueNames field width).lookup value

end Culture

end ChronoText
