import OrderedChoice.Action.Continuation
import OrderedChoice.Action.Custom
import OrderedChoice.Action.Element
import OrderedChoice.Action.Transform
import OrderedChoice.Main
import OrderedChoice.Session
import OrderedChoice.Proofs.Grammar.Location
import OrderedChoice.Proofs.ParsingExpression.Adequacy
import OrderedChoice.Proofs.Grammar.Whole
import OrderedChoice.Proofs.Grammar.Sequence
import OrderedChoice.Proofs.Chain.Grouping
import OrderedChoice.Proofs.Chain.Agreement
import OrderedChoice.Proofs.Scanner.Character
import OrderedChoice.Proofs.Calculator.Syntax
import OrderedChoice.Proofs.Calculator.Token
import OrderedChoice.Proofs.Calculator.Soundness
import OrderedChoice.Proofs.Calculator.Completeness
import OrderedChoice.Proofs.Calculator.Evaluation
import OrderedChoice.Proofs.Grammar.Representation
import OrderedChoice.Proofs.Grammar.Consumption
import OrderedChoice.Proofs.Grammar.Diagnostic
import OrderedChoice.Proofs.NestedList.Reading
import OrderedChoice.Proofs.Grammar.Tracing
import OrderedChoice.Proofs.Grammar.Log
import OrderedChoice.Proofs.Calculator.Descent
import OrderedChoice.Proofs.Grammar.Text
import OrderedChoice.Proofs.Grammar.FlatSequence
import OrderedChoice.Proofs.Grammar.Separation
import OrderedChoice.Proofs.Scanner.Base
import OrderedChoice.Proofs.Scanner.Digit
import OrderedChoice.Proofs.Scanner.Integer
import OrderedChoice.Proofs.Scanner.Positional
import OrderedChoice.Proofs.Position.Order
import OrderedChoice.Proofs.Grammar.Literal
import OrderedChoice.Proofs.Grammar.Choice
import OrderedChoice.Proofs.Grammar.Counting
import OrderedChoice.Proofs.Grammar.Depth
import OrderedChoice.Proofs.Grammar.Recursion
import OrderedChoice.Proofs.Scanner.CombinedDecimal
import OrderedChoice.Proofs.Pattern.Language
import OrderedChoice.Proofs.Pattern.Search
import OrderedChoice.Proofs.Pattern.Reading
import OrderedChoice.Proofs.Scanner.Pattern
import OrderedChoice.Proofs.Scanner.Cut
