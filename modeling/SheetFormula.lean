import SheetFormula.Evaluation.Recording
import SheetFormula.Json
import SheetFormula.Main
import SheetFormula.Proofs.Sequence
import SheetFormula.Proofs.Grammar.Derivation
import SheetFormula.Proofs.Grammar.Unambiguous
import SheetFormula.Proofs.Parser.Completeness
import SheetFormula.Proofs.Parser.Scanning
import SheetFormula.Proofs.Parser.Soundness
import SheetFormula.Proofs.Parser.Language
import SheetFormula.Proofs.Token.Items
import SheetFormula.Proofs.Binary64.ReadBack
import SheetFormula.Proofs.Text.Spelling
import SheetFormula.Proofs.Text.Quoted
import SheetFormula.Proofs.Token.ReadBack
import SheetFormula.Proofs.Grammar.Nesting
import SheetFormula.Proofs.Formula.SpelledOut
import SheetFormula.Proofs.Formula.Canonical
import SheetFormula.Proofs.Expression.RoundTrip
import SheetFormula.Proofs.Parser.ErrorPlace
import SheetFormula.Proofs.Formula.Position
import SheetFormula.Proofs.Evaluation.Visit
import SheetFormula.Proofs.Evaluation.CallOrder
import SheetFormula.Proofs.Evaluation.Unvisited
import SheetFormula.Proofs.Expression.Meaning
import SheetFormula.Proofs.Expression.Storage
import SheetFormula.Proofs.Parser.Ceiling
import SheetFormula.Proofs.Evaluation.Names
import SheetFormula.Proofs.Token.Munch
import SheetFormula.Proofs.Token.Tiling
import SheetFormula.Proofs.Formula.CanonicalTokens
import SheetFormula.Proofs.Expression.Ungrouped
import SheetFormula.Proofs.Expression.Range
import SheetFormula.Proofs.Text.Boundaries
import SheetFormula.Proofs.BaseLibrary.Answers
import SheetFormula.Proofs.Formula.Printable
import SheetFormula.Proofs.Evaluation.Steady
import SheetFormula.Proofs.CommandLine.Arguments
import SheetFormula.Proofs.CommandLine.Feedback
import SheetFormula.Proofs.Token.TextLiteral
import SheetFormula.Proofs.Formula.Threshold
import SheetFormula.Proofs.Parser.Recursion
import SheetFormula.Proofs.Evaluation.Causes
import SheetFormula.Proofs.Expression.Sameness
import SheetFormula.Proofs.Text.Encoding
import SheetFormula.Proofs.Operator.Relations
import SheetFormula.Proofs.Binary64.Whole
import SheetFormula.Proofs.Text.Windows
import SheetFormula.Proofs.Text.Occurrences
import SheetFormula.Proofs.BaseLibrary.Cuts
import SheetFormula.Proofs.BaseLibrary.Searches
import SheetFormula.Proofs.Evaluation.EndAlike
import SheetFormula.Proofs.Evaluation.Junctions
import SheetFormula.Proofs.Evaluation.Concatenations
import SheetFormula.Proofs.Evaluation.Cancellation
import SheetFormula.Proofs.BaseLibrary.Repetition
import SheetFormula.Proofs.Parser.Lookahead
import SheetFormula.Proofs.Parser.Counter
import SheetFormula.Proofs.BaseLibrary.Variadic
import SheetFormula.Proofs.Token.Numbers
