import ChronoText.Formatter.DateTimeBuilder
import ChronoText.Formatter.PeriodBuilder
import ChronoText.Temporal.SupportedYears
import ChronoText.Proofs.Text.Caseless
import ChronoText.Proofs.Parsing.Numbers
import ChronoText.Proofs.Parsing.Elements
import ChronoText.Proofs.Gregorian.Conversion
import ChronoText.Proofs.Gregorian.Succession
import ChronoText.Proofs.Gregorian.Weeks
import ChronoText.Proofs.Gregorian.WeekDates
import ChronoText.Proofs.Temporal.Fields
import ChronoText.Proofs.Parsing.Components
import ChronoText.Proofs.Formatter.OffsetRoundTrip
import ChronoText.Proofs.Formatter.PatternRoundTrip
import ChronoText.Proofs.Parsing.Affixes
import ChronoText.Proofs.Parsing.Units
import ChronoText.Proofs.Parsing.PeriodParts
import ChronoText.Proofs.Parsing.UnitAmounts
import ChronoText.Proofs.Formatter.PeriodWords
import ChronoText.Proofs.Formatter.IsoPeriods
import ChronoText.Proofs.Parsing.Runs
import ChronoText.Proofs.Formatter.IsoRoundTrip
import ChronoText.Proofs.Formatter.PeriodLayouts
import ChronoText.Proofs.Formatter.LayoutRoundTrip
import ChronoText.Proofs.Pattern.Tokens
import ChronoText.Proofs.Pattern.Grammar
import ChronoText.Proofs.Parsing.Places
import ChronoText.Proofs.Parsing.Readers
import ChronoText.Proofs.Parsing.Faithful
import ChronoText.Proofs.Parsing.Extraction
import ChronoText.Proofs.Parsing.StatedComponents
import ChronoText.Proofs.Parsing.ResolutionInWords
import ChronoText.Proofs.Failure.Messages
import ChronoText.Proofs.Gregorian.Words
import ChronoText.Proofs.Formatter.Reachable
import ChronoText.Proofs.Formatter.SoundBuilders
import ChronoText.Proofs.Formatter.BuilderSessions
import ChronoText.Proofs.Printing.Lengths
import ChronoText.Proofs.Formatter.PeriodPieces
import ChronoText.Proofs.Formatter.LiteralRoundTrip
import ChronoText.Proofs.Formatter.TrailingSeparators
import ChronoText.Proofs.Formatter.MisreadSeparators
import ChronoText.Proofs.Formatter.FullFormats
import ChronoText.Proofs.Parsing.Disguise
import ChronoText.Proofs.Parsing.DisguisedReaders
import ChronoText.Proofs.Parsing.DisguisedElements
import ChronoText.Proofs.Parsing.LetterCase
import ChronoText.Proofs.Formatter.EmbeddedTexts
import ChronoText.Proofs.Formatter.ErrorClasses
import ChronoText.Proofs.Formatter.PrintedUnits
import ChronoText.Proofs.Parsing.ExactNumbers
import ChronoText.Proofs.Parsing.SuffixedUnits
import ChronoText.Proofs.Parsing.ImpossibleComponents
import ChronoText.Proofs.Printing.SeparatedLists
import ChronoText.Proofs.Pattern.Quoting
import ChronoText.Proofs.Formatter.NestedUnits
import ChronoText.Proofs.Parsing.NarrowedTypes
import ChronoText.Proofs.Formatter.ParseTypes
import ChronoText.Proofs.Parsing.OffsetGrammar
import ChronoText.Proofs.Parsing.LongestNames
import ChronoText.Proofs.Formatter.PivotYears
import ChronoText.Proofs.Formatter.Flattening
import ChronoText.Proofs.Formatter.EntryPoints
import ChronoText.Proofs.Temporal.DisplayTexts
import ChronoText.Proofs.Parsing.GivenTexts
import ChronoText.Proofs.Formatter.DisplayRoundTrip
import ChronoText.Proofs.Parsing.SupportedYears
import ChronoText.Proofs.Parsing.DeclaredRanges
import ChronoText.Proofs.Temporal.Chronology
import ChronoText.Proofs.Text.WrittenNumbers
import ChronoText.Proofs.Formatter.Transitions
import ChronoText.Proofs.Formatter.PrintedOffsets
