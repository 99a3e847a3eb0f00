import RecordQuery.Value.Basic
import RecordQuery.Operator
import RecordQuery.Insensitivity
import RecordQuery.Unicode.Property
import RecordQuery.Unicode.Script
import RecordQuery.Unicode.CaseMapping
import RecordQuery.Unicode.CombiningClass
import RecordQuery.Unicode.Decomposition
import RecordQuery.Text.Fold
import RecordQuery.Unicode.Standard
import RecordQuery.Unicode.Lookup
import RecordQuery.Pattern
import RecordQuery.Regex.Engine
import RecordQuery.Expression.Canonical
import RecordQuery.Expression.Walk
import RecordQuery.Selection
import RecordQuery.Diagnostics
import RecordQuery.Session
import RecordQuery.Schema.Derive
import RecordQuery.Schema.AttributeReader
import RecordQuery.Checked.Dispatch
import RecordQuery.Checked.Runs
import RecordQuery.Checked.Clock
import RecordQuery.Proofs.Expression.Tree
import RecordQuery.Proofs.Expression.Combination
import RecordQuery.Proofs.Predicate.FirstOperator
import RecordQuery.Proofs.Predicate.Access
import RecordQuery.Proofs.Predicate.Dispatch
import RecordQuery.Proofs.Expression.Layout
import RecordQuery.Proofs.Expression.Placeholders
import RecordQuery.Proofs.Value.Identical
import RecordQuery.Proofs.Reading.Token
import RecordQuery.Proofs.Reading.Clause
import RecordQuery.Proofs.Reading.Verdict
import RecordQuery.Proofs.Reading.Meaning
import RecordQuery.Proofs.Expression.Report
import RecordQuery.Proofs.Expression.SameForm
import RecordQuery.Proofs.Number.Order
import RecordQuery.Proofs.Value.Order
import RecordQuery.Proofs.Pattern.Documented
import RecordQuery.Proofs.Regex.Reading
import RecordQuery.Proofs.Regex.Matching
import RecordQuery.Proofs.Regex.Searching
import RecordQuery.Proofs.Glob.Matching
import RecordQuery.Proofs.Expression.Flattening
import RecordQuery.Proofs.Value.Duality
import RecordQuery.Proofs.Schema.Derivation
import RecordQuery.Proofs.Schema.ConstantName
import RecordQuery.Proofs.Schema.Directives
import RecordQuery.Proofs.Schema.Outcome
import RecordQuery.Proofs.Schema.Listing
import RecordQuery.Proofs.Schema.Grammar
import RecordQuery.Proofs.Schema.TokenCount
import RecordQuery.Proofs.Schema.AttributeList
import RecordQuery.Proofs.Schema.FieldOptions
import RecordQuery.Proofs.Schema.FirstFault
import RecordQuery.Proofs.Schema.Capitals
import RecordQuery.Proofs.Draft.Chain
import RecordQuery.Proofs.Draft.Quantifier
import RecordQuery.Proofs.Draft.Membership
import RecordQuery.Proofs.Draft.Ignored
import RecordQuery.Proofs.Expression.Preorder
import RecordQuery.Proofs.Expression.Rendering
import RecordQuery.Proofs.Selection.Retaining
import RecordQuery.Proofs.Number.Exact
import RecordQuery.Proofs.Value.Runs
import RecordQuery.Proofs.Text.LatinBase
import RecordQuery.Proofs.Text.Standard
import RecordQuery.Proofs.Text.Occurrence
import RecordQuery.Proofs.Text.CaseFirst
import RecordQuery.Proofs.Value.Folded
import RecordQuery.Proofs.Text.Ascii
import RecordQuery.Proofs.Selection.Agreement
import RecordQuery.Proofs.Text.Marks
import RecordQuery.Proofs.Text.NormalForm
import RecordQuery.Proofs.Text.Bytes
import RecordQuery.Proofs.Value.Characters
import RecordQuery.Proofs.Value.Storage
import RecordQuery.Proofs.Timestamp
