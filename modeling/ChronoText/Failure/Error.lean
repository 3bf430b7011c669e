import ChronoText.Failure.Failure

/-! Errors, as callers see them. A misuse of the library and a fault of a text stay apart: the
first is an argument, operation or support error, the second a format or parse error that carries
its failure. -/

set_option autoImplicit false

namespace ChronoText

inductive ErrorKind where
  | general
  | argument
  | invalidOperation
  | unsupported
  | format
  | parse
  | assertion
  deriving DecidableEq

namespace ErrorKind

def name : ErrorKind → String
  | general => "Error"
  | argument => "ArgumentError"
  | invalidOperation => "InvalidOperationError"
  | unsupported => "UnsupportedError"
  | format => "FormatError"
  | parse => "ParseError"
  | assertion => "ImplementationError"

end ErrorKind

structure FormatError where
  kind : ErrorKind
  /-- A wording of its own, which takes the place of that of the failure unless it is empty. -/
  wording : String := ""
  failure? : Option Failure := none
  deriving DecidableEq

namespace FormatError

def ofFailure (failure : Failure) : FormatError where
  kind :=
    if failure.kind = .emptyArgument then .argument
    else if failure.kind.isPatternFailure then .format
    else .parse
  failure? := some failure

/-- The error of an argument that has to be given and was empty. -/
def emptyArgument (name : String) : FormatError :=
  { kind := .argument, failure? := some (.emptyArgument name) }

def withWording (error : FormatError) (wording : String) : FormatError :=
  { error with wording }

def withFailure (error : FormatError) (failure : Failure) : FormatError :=
  { error with failure? := some failure }

def message (error : FormatError) : String :=
  match error.failure? with
  | some failure => if error.wording = "" then failure.message else error.wording
  | none => error.wording

/-- Whether the error reports a misuse and not a fault of a pattern or value text. -/
def isUsageError (error : FormatError) : Bool :=
  error.kind = .argument || error.kind = .invalidOperation || error.kind = .unsupported

/-- The kind and, unless it is empty, the message. -/
def display (error : FormatError) : String :=
  if error.message = "" then error.kind.name else error.kind.name ++ ": " ++ error.message

end FormatError

/-- The ways to misuse the library, apart from empty arguments. -/
inductive Misuse where
  | instantOutOfRange
  | offsetOutOfRange
  | offsetComponentsOutOfRange
  | yearOutOfRange
  | monthOutOfRange
  | dayNotInMonth
  | timeOutOfRange
  | unknownPeriodField
  | unknownZeroPolicy
  | unknownStandardPattern
  | fieldNotSupported (periodType field : String)
  | decimalDigits
  | fixedDecimalDigits
  | notAYear
  | fractionDigits
  | nothingToAppend
  | secondPrefix
  | prefixAfterLiteral
  | prefixWithoutField
  | secondSuffix
  | suffixWithoutField
  | adjacentSeparators
  | noPrinter
  | noParser
  | offsetWithoutZone
  | spaceExhausted
  deriving DecidableEq

namespace Misuse

def errorKind : Misuse → ErrorKind
  | secondPrefix | prefixAfterLiteral | prefixWithoutField | secondSuffix | suffixWithoutField
  | adjacentSeparators => .invalidOperation
  | fieldNotSupported _ _ | noPrinter | noParser | offsetWithoutZone => .unsupported
  | spaceExhausted => .general
  | _ => .argument

def wording : Misuse → String
  | instantOutOfRange => "Instant is out of the supported range."
  | offsetOutOfRange => "Offset must be within -18:00 and +18:00."
  | offsetComponentsOutOfRange => "Offset components are out of range."
  | yearOutOfRange => "Year is out of the supported range."
  | monthOutOfRange => "Month must be within 1 and 12."
  | dayNotInMonth => "Day is not valid for the month."
  | timeOutOfRange => "Time is out of range."
  | unknownPeriodField => "Invalid period field provided."
  | unknownZeroPolicy => "Invalid print zero policy provided."
  | unknownStandardPattern => "Invalid standard pattern provided."
  | fieldNotSupported periodType field =>
    "Period type " ++ periodType ++ " does not support the field " ++ field
  | decimalDigits => "Decimal fields require 0 < min_digits <= max_digits."
  | fixedDecimalDigits => "Fixed decimal fields require digits."
  | notAYear => "Two digit years require a year field."
  | fractionDigits => "Fractions of a second require between 1 and 9 digits."
  | nothingToAppend => "The formatter has neither printer nor parser."
  | secondPrefix => "A prefix is already waiting for a field."
  | prefixAfterLiteral => "A prefix cannot directly follow a literal."
  | prefixWithoutField => "A prefix must be followed by a field."
  | secondSuffix => "The last field already has a suffix."
  | suffixWithoutField => "No field to apply suffix to."
  | adjacentSeparators => "Cannot have two adjacent separators."
  | noPrinter => "Printing is not supported by this formatter."
  | noParser => "Parsing is not supported by this formatter."
  | offsetWithoutZone => "Printing an offset requires a zone for local date-times."
  | spaceExhausted => "Writing to the sink failed."

def error (misuse : Misuse) : FormatError :=
  { kind := misuse.errorKind, wording := misuse.wording }

end Misuse

end ChronoText
