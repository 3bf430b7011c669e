import ChronoText.Formatter.Tree
import ChronoText.Parsing.Position
import ChronoText.Parsing.Resolution

/-! Formatters of periods: a tree to print with, a tree to read with, a culture, and the type of
the periods that are read. -/

set_option autoImplicit false

namespace ChronoText

structure PeriodFormatter where
  printer? : Option FormatTree
  parser? : Option FormatTree
  culture : Culture := .invariant
  parseType : PeriodType := .standard

namespace PeriodFormatter

def withCulture (formatter : PeriodFormatter) (culture : Culture) : PeriodFormatter :=
  { formatter with culture }

def withParseType (formatter : PeriodFormatter) (parseType : PeriodType) : PeriodFormatter :=
  { formatter with parseType }

/-- Whether two formatters share trees and agree in culture and type. -/
def same (first second : PeriodFormatter) : Bool :=
  FormatTree.sameOption first.printer? second.printer?
    && FormatTree.sameOption first.parser? second.parser?
    && first.culture = second.culture
    && first.parseType = second.parseType

def printContext (formatter : PeriodFormatter) (period : Period) : PrintContext :=
  ⟨formatter.culture, .period period⟩

def printCharacters (formatter : PeriodFormatter) (period : Period) :
    Except FormatError (List Char) := do
  let tree ← requirePrinter formatter.printer?
  pure (tree.print (formatter.printContext period))

def print (formatter : PeriodFormatter) (period : Period) : Except FormatError String :=
  String.ofList <$> formatter.printCharacters period

/-- The text of a period, printed into a space of a number of bytes. -/
def printWithin (formatter : PeriodFormatter) (space : Nat) (period : Period) :
    Except FormatError String := do
  withinSpace space (← formatter.printCharacters period)

/-- A number of bytes that the text of a period does not exceed. -/
def estimateLength (formatter : PeriodFormatter) (period : Period) : Except FormatError Nat := do
  let tree ← requirePrinter formatter.printer?
  pure (tree.lengthHint (formatter.printContext period)).capacity

def parseSettings (formatter : PeriodFormatter) : ParseSettings where
  culture := formatter.culture
  periodType := formatter.parseType

/-- Reads from a position of a text, of which some may be left over. -/
def parseFrom (formatter : PeriodFormatter) (text : String) (position : Nat) :
    Except FormatError (ParseOutcome × ParseState) := do
  let tree ← requireParser formatter.parser?
  pure (Element.parseAt formatter.parseSettings text.toList position (.composite tree.elements))

/-- Reads a whole text. The result is a failure if the text does not fit, and an error only if
there is nothing to read with. -/
def tryParse (formatter : PeriodFormatter) (text : String) :
    Except FormatError (Except Failure Period) := do
  let tree ← requireParser formatter.parser?
  pure do
    let bucket ← parseWhole tree.elements formatter.parseSettings text.toList "Period"
    bucket.toPeriod formatter.parseType

def parse (formatter : PeriodFormatter) (text : String) : Except FormatError Period := do
  failureAsError (← formatter.tryParse text)

/-- With a tree to read with, what is read of a whole text makes the period. -/
theorem parse_of_tree {formatter : PeriodFormatter} {tree : FormatTree}
    (parser : formatter.parser? = some tree) (text : String) :
    formatter.parse text =
      ((parseWhole tree.elements formatter.parseSettings text.toList "Period").bind
        (·.toPeriod formatter.parseType)).mapError .ofFailure := by
  simp only [parse, tryParse, parser, requireParser, failureAsError]
  rfl

end PeriodFormatter

end ChronoText
