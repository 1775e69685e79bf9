import Worksheet.Arithmetic
import Worksheet.Binary64
import Worksheet.Display
import Worksheet.Evaluation
import Worksheet.Expr
import Worksheet.Numeral.Basic
import Worksheet.Numeral.Reading
import Worksheet.Outcome
import Worksheet.Proofs.Accuracy
import Worksheet.Proofs.Answers
import Worksheet.Proofs.Binary64.Bits
import Worksheet.Proofs.Binary64.Nearest
import Worksheet.Proofs.Binary64.SameNumber
import Worksheet.Proofs.Binary64.Status
import Worksheet.Proofs.Classification
import Worksheet.Proofs.Display
import Worksheet.Proofs.Evaluation.Alike
import Worksheet.Proofs.Evaluation.Equal
import Worksheet.Proofs.Evaluation.Frame
import Worksheet.Proofs.Evaluation.Order
import Worksheet.Proofs.Evaluation.Overflow
import Worksheet.Proofs.Evaluation.Running
import Worksheet.Proofs.Evaluation.Unbound
import Worksheet.Proofs.Expr.Acceptance
import Worksheet.Proofs.Expr.Alike
import Worksheet.Proofs.Expr.Completeness
import Worksheet.Proofs.Expr.Earliest
import Worksheet.Proofs.Expr.Grammar
import Worksheet.Proofs.Expr.LineEnd
import Worksheet.Proofs.Expr.Lookahead
import Worksheet.Proofs.Expr.Nesting
import Worksheet.Proofs.Expr.Occurrences
import Worksheet.Proofs.Expr.Operand
import Worksheet.Proofs.Expr.Refusal
import Worksheet.Proofs.Expr.Renumber
import Worksheet.Proofs.Lockstep
import Worksheet.Proofs.Mentions
import Worksheet.Proofs.Numeral.Correct
import Worksheet.Proofs.Numeral.Decimal
import Worksheet.Proofs.Numeral.Digits
import Worksheet.Proofs.Numeral.Layout
import Worksheet.Proofs.Numeral.Significant
import Worksheet.Proofs.Redisplay
import Worksheet.Proofs.Reentry
import Worksheet.Proofs.References
import Worksheet.Proofs.ScopeEquality
import Worksheet.Proofs.Sheet.Beside
import Worksheet.Proofs.Sheet.Coherent
import Worksheet.Proofs.Sheet.Dependents
import Worksheet.Proofs.Sheet.Failure
import Worksheet.Proofs.Sheet.Gap
import Worksheet.Proofs.Sheet.Insert
import Worksheet.Proofs.Sheet.Last
import Worksheet.Proofs.Sheet.Laws
import Worksheet.Proofs.Sheet.Meaning
import Worksheet.Proofs.Sheet.Pass
import Worksheet.Proofs.Sheet.Reachable
import Worksheet.Proofs.Sheet.Remove
import Worksheet.Proofs.Sheet.Rows
import Worksheet.Proofs.Spacing
import Worksheet.Proofs.Token.Cut
import Worksheet.Proofs.Token.Pattern
import Worksheet.Proofs.Token.Renumber
import Worksheet.Proofs.Token.Spans
import Worksheet.Proofs.Token.Stretches
import Worksheet.Reference
import Worksheet.Scope
import Worksheet.Session
import Worksheet.Sheet
import Worksheet.Text.Classes
import Worksheet.Text.Quoted
import Worksheet.Token
