import Formulary.Grammar
import Formulary.Main
import Formulary.Proofs.Outcomes
import Formulary.Proofs.Reading.Operands
import Formulary.Proofs.Reading.TokenPrefix
import Formulary.Proofs.Reading.Categories
import Formulary.Proofs.Reading.Completeness
import Formulary.Proofs.Reading.Soundness
import Formulary.Proofs.Reading.Unambiguity
import Formulary.Proofs.Reading.Exactness
import Formulary.Proofs.Reading.Failures
import Formulary.Proofs.Loading.Linking
import Formulary.Proofs.Loading.LoadedUnits
import Formulary.Proofs.Compiling.FormulaCompilation
import Formulary.Proofs.Compiling.ComputedValues
import Formulary.Proofs.Binary64.Rounding
import Formulary.Proofs.Binary64.SignedMagnitudes
import Formulary.Proofs.Decimal.SameNumber
import Formulary.Proofs.Decimal.WrittenNumerals
import Formulary.Proofs.Decimal.ReadNumerals
import Formulary.Proofs.Lexing.Lexemes
import Formulary.Proofs.Lexing.NormalText
import Formulary.Proofs.Printing.Literals
import Formulary.Proofs.Printing.PrintedText
import Formulary.Proofs.Printing.PrintedTokens
import Formulary.Proofs.Printing.PrintedTrees
import Formulary.Proofs.Printing.RoundTrip
import Formulary.Proofs.Compiling.PaddedUnits
import Formulary.Proofs.Lexing.GreedyCuts
import Formulary.Proofs.Reading.EarliestErrors
import Formulary.Proofs.Reading.LazyReading
import Formulary.Proofs.Loading.FirstFaults
import Formulary.Proofs.Compiling.FaultOrder
import Formulary.Proofs.Loading.LoadedCalls
import Formulary.Proofs.CommandLine.ReportedRuns
import Formulary.Proofs.Lexing.CaseFolding
import Formulary.Proofs.Lexing.FoldedCuts
import Formulary.Proofs.Compiling.CaseInsensitivity
import Formulary.Proofs.Lexing.LexerSteps
import Formulary.Proofs.Lexing.LexerRuns
import Formulary.Proofs.Lexing.DelimitedCuts
import Formulary.Proofs.Reading.ComposedFormulas
import Formulary.Proofs.Binary64.NearestMagnitudes
import Formulary.Proofs.CommandLine.ShownTokens
import Formulary.Proofs.Binary64.CorrectRounding
import Formulary.Proofs.Decimal.NearestValues
import Formulary.Proofs.Lexing.NumeralValues
import Formulary.Proofs.Reading.HandedVariables
import Formulary.Proofs.Reading.CollectedVariables
import Formulary.Proofs.Reading.CallStack
import Formulary.Proofs.Reading.CountedCalls
import Formulary.Proofs.Decimal.GridNeighbours
import Formulary.Proofs.Decimal.ShortestDigits
import Formulary.Proofs.Decimal.WholeNumbers
import Formulary.Proofs.Binary64.IntegerCasts
import Formulary.Proofs.Binary64.Fractions
import Formulary.Proofs.CommandLine.ShownValues
