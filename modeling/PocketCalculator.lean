import PocketCalculator.Engine.Mode
import PocketCalculator.Expression.Keying
import PocketCalculator.Reduction.Precedence
import PocketCalculator.Session.Notification
import PocketCalculator.Session.Queue
import PocketCalculator.Proofs.Arithmetic.Finite
import PocketCalculator.Proofs.Arithmetic.Operation
import PocketCalculator.Proofs.Arithmetic.Range
import PocketCalculator.Proofs.Double.Greatest
import PocketCalculator.Proofs.Double.Nearest
import PocketCalculator.Proofs.Double.Overflow
import PocketCalculator.Proofs.Double.Whole
import PocketCalculator.Proofs.Engine.Answers
import PocketCalculator.Proofs.Engine.Continuation
import PocketCalculator.Proofs.Engine.Modes
import PocketCalculator.Proofs.Engine.Restoring
import PocketCalculator.Proofs.Expression.Editing
import PocketCalculator.Proofs.Expression.Entry
import PocketCalculator.Proofs.Expression.Integers
import PocketCalculator.Proofs.Expression.Keying
import PocketCalculator.Proofs.Expression.Lead
import PocketCalculator.Proofs.Expression.Normalising
import PocketCalculator.Proofs.Expression.Rendering
import PocketCalculator.Proofs.FixedPoint.Layout
import PocketCalculator.Proofs.FixedPoint.Stability
import PocketCalculator.Proofs.FixedPoint.Whole
import PocketCalculator.Proofs.Numeral.Digits
import PocketCalculator.Proofs.Numeral.Extension
import PocketCalculator.Proofs.Numeral.Integer
import PocketCalculator.Proofs.Numeral.Layout
import PocketCalculator.Proofs.Reduction.Alternation
import PocketCalculator.Proofs.Reduction.Continuation
import PocketCalculator.Proofs.Reduction.Integers
import PocketCalculator.Proofs.Reduction.Neutral
import PocketCalculator.Proofs.Reduction.Outcome
import PocketCalculator.Proofs.Reduction.Refusal
import PocketCalculator.Proofs.Reduction.TermsFirst
import PocketCalculator.Proofs.Session.Answer
import PocketCalculator.Proofs.Session.Continuation
import PocketCalculator.Proofs.Session.Course
import PocketCalculator.Proofs.Session.Entry
import PocketCalculator.Proofs.Session.FreshStart
import PocketCalculator.Proofs.Session.Integers
import PocketCalculator.Proofs.Session.Keying
import PocketCalculator.Proofs.Session.Modes
import PocketCalculator.Proofs.Session.Nesting
import PocketCalculator.Proofs.Session.Queue
import PocketCalculator.Proofs.Session.Reductions
import PocketCalculator.Proofs.Session.Restoring
import PocketCalculator.Proofs.Session.Spectators
import PocketCalculator.Proofs.Session.Stability
import PocketCalculator.Proofs.Text.Words
import PocketCalculator.Proofs.Settings.Winners
import PocketCalculator.Proofs.FixedPoint.Exact
import PocketCalculator.Proofs.Input
import PocketCalculator.Proofs.Session.Refused
import PocketCalculator.Proofs.Reduction.Blame
import PocketCalculator.Proofs.Session.Blame
import PocketCalculator.Proofs.Double.Symmetry
import PocketCalculator.Proofs.Arithmetic.Symmetry
import PocketCalculator.Proofs.Session.Repeating
import PocketCalculator.Proofs.Reduction.Shortage
import PocketCalculator.Proofs.Session.Shortage
import PocketCalculator.Proofs.Session.Changes
import PocketCalculator.Proofs.Numeral.Denoted
import PocketCalculator.Proofs.Reduction.Passes
