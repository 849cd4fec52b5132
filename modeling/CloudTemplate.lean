import CloudTemplate.Workspace
import CloudTemplate.Rehearsal
import CloudTemplate.Function.Elementary
import CloudTemplate.Proofs.Levels
import CloudTemplate.Proofs.BuiltIn
import CloudTemplate.Proofs.Within
import CloudTemplate.Proofs.Shape
import CloudTemplate.Proofs.TwoPasses.Follows
import CloudTemplate.Proofs.TwoPasses.Functions
import CloudTemplate.Proofs.TwoPasses
import CloudTemplate.Proofs.TwoPasses.Completion
import CloudTemplate.Proofs.TwoPasses.Judgement
import CloudTemplate.Proofs.Condition.References
import CloudTemplate.Proofs.Condition.Order
import CloudTemplate.Proofs.Condition.Sequence
import CloudTemplate.Proofs.Condition.Solution
import CloudTemplate.Proofs.Condition.Occurrences
import CloudTemplate.Proofs.Condition.Tables
import CloudTemplate.Proofs.Template.EntryPoints
import CloudTemplate.Proofs.Template.Reordering
import CloudTemplate.Proofs.Template.SecondPass
import CloudTemplate.Proofs.Template.Retention
import CloudTemplate.Proofs.Origin
import CloudTemplate.Proofs.Texts
import CloudTemplate.Proofs.InStep
import CloudTemplate.Proofs.InStep.Functions
import CloudTemplate.Proofs.Template.FixedPoint
import CloudTemplate.Proofs.Condition.Written
import CloudTemplate.Proofs.Documents
import CloudTemplate.Proofs.Condition.Substitution
import CloudTemplate.Proofs.Requests.Functions
import CloudTemplate.Proofs.Arithmetic.Evaluation
import CloudTemplate.Proofs.Substitution
import CloudTemplate.Proofs.Depth
import CloudTemplate.Proofs.Caching
import CloudTemplate.Proofs.Folding
import CloudTemplate.Proofs.Compilation
import CloudTemplate.Proofs.Template.Compilation
import CloudTemplate.Proofs.Sharing
import CloudTemplate.Proofs.Json.Reading
import CloudTemplate.Proofs.RoundTrip
import CloudTemplate.Proofs.Utf8
import CloudTemplate.Proofs.Base64.Encoding
import CloudTemplate.Proofs.Base64
import CloudTemplate.Proofs.Pieces
import CloudTemplate.Proofs.Counter
import CloudTemplate.Proofs.PlainData
import CloudTemplate.Proofs.Template.Cycles
import CloudTemplate.Proofs.Equality
import CloudTemplate.Proofs.Equality.Chains
import CloudTemplate.Proofs.Indentation
import CloudTemplate.Proofs.Rounding
import CloudTemplate.Proofs.Rounding.NormalForm
import CloudTemplate.Proofs.Rounding.Numbers
import CloudTemplate.Proofs.Totals
import CloudTemplate.Proofs.Conversion
import CloudTemplate.Proofs.Registration
import CloudTemplate.Proofs.Duality
import CloudTemplate.Proofs.Merging
import CloudTemplate.Proofs.Listing
import CloudTemplate.Proofs.Lines
import CloudTemplate.Proofs.Template.Lines
import CloudTemplate.Proofs.Template.Truthfulness
import CloudTemplate.Proofs.Arithmetic.Faults
import CloudTemplate.Proofs.Arithmetic.Cursor
import CloudTemplate.Proofs.Arithmetic.Following
import CloudTemplate.Proofs.Arithmetic.Positions
import CloudTemplate.Proofs.Selection
