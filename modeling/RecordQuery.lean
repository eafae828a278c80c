import RecordQuery.Dictionary
import RecordQuery.Field.Capability
import RecordQuery.Field.Registry
import RecordQuery.Filter.Basic
import RecordQuery.Filter.Cursor
import RecordQuery.Filter.Lexer
import RecordQuery.Filter.Name
import RecordQuery.Filter.Parser
import RecordQuery.Filter.SortList
import RecordQuery.Filter.SyntaxError
import RecordQuery.Filter.Token
import RecordQuery.Instant.Basic
import RecordQuery.Instant.Text
import RecordQuery.Json.Basic
import RecordQuery.Json.Reader
import RecordQuery.Main
import RecordQuery.Number.Basic
import RecordQuery.Number.Decimal
import RecordQuery.Number.Shortest
import RecordQuery.Proofs.Dictionary
import RecordQuery.Proofs.Field.Registration
import RecordQuery.Proofs.Filter.Acceptance
import RecordQuery.Proofs.Filter.Completeness
import RecordQuery.Proofs.Filter.Continuation
import RecordQuery.Proofs.Filter.Coverage
import RecordQuery.Proofs.Filter.Depth
import RecordQuery.Proofs.Filter.Grammar
import RecordQuery.Proofs.Filter.Layout
import RecordQuery.Proofs.Filter.LetterCase
import RecordQuery.Proofs.Filter.Lexing
import RecordQuery.Proofs.Filter.Literals
import RecordQuery.Proofs.Filter.Lowering
import RecordQuery.Proofs.Filter.Masking
import RecordQuery.Proofs.Filter.Naming
import RecordQuery.Proofs.Filter.Outline
import RecordQuery.Proofs.Filter.Partition
import RecordQuery.Proofs.Filter.Positions
import RecordQuery.Proofs.Filter.Printing
import RecordQuery.Proofs.Filter.Refusal
import RecordQuery.Proofs.Filter.Scanning
import RecordQuery.Proofs.Filter.SortItem
import RecordQuery.Proofs.Filter.SortLanguage
import RecordQuery.Proofs.Filter.Soundness
import RecordQuery.Proofs.Filter.Spelling
import RecordQuery.Proofs.Filter.Stepping
import RecordQuery.Proofs.Firsts
import RecordQuery.Proofs.Instant.RoundTrip
import RecordQuery.Proofs.Number.Order
import RecordQuery.Proofs.Number.Overflow
import RecordQuery.Proofs.Number.RoundTrip
import RecordQuery.Proofs.Number.Rounding
import RecordQuery.Proofs.Outcome
import RecordQuery.Proofs.Query.Alternatives
import RecordQuery.Proofs.Query.Binding
import RecordQuery.Proofs.Query.Composition
import RecordQuery.Proofs.Query.Confidentiality
import RecordQuery.Proofs.Query.Dependence
import RecordQuery.Proofs.Query.Injection
import RecordQuery.Proofs.Query.LetterCase
import RecordQuery.Proofs.Query.Lowering
import RecordQuery.Proofs.Query.Numerals
import RecordQuery.Proofs.Query.Recovery
import RecordQuery.Proofs.Query.Relations
import RecordQuery.Proofs.Query.SortKeys
import RecordQuery.Proofs.Query.Sorting
import RecordQuery.Proofs.Query.Suitability
import RecordQuery.Proofs.Shell.History
import RecordQuery.Proofs.Shell.Marks
import RecordQuery.Proofs.Sql.Columns
import RecordQuery.Proofs.Sql.Constants
import RecordQuery.Proofs.Sql.Evaluation
import RecordQuery.Proofs.Sql.Membership
import RecordQuery.Proofs.Sql.Ordering
import RecordQuery.Proofs.Sql.Pattern
import RecordQuery.Proofs.Sql.Pieces
import RecordQuery.Proofs.Sql.Reader
import RecordQuery.Proofs.Sql.SelectList
import RecordQuery.Proofs.Sql.Selection
import RecordQuery.Proofs.Sql.Tokens
import RecordQuery.Proofs.Text.Digits
import RecordQuery.Proofs.Text.Folding
import RecordQuery.Proofs.Text.Slices
import RecordQuery.Proofs.Value.Order
import RecordQuery.Proofs.View.History
import RecordQuery.Proofs.View.Places
import RecordQuery.Proofs.View.Showing
import RecordQuery.Proofs.View.Validation
import RecordQuery.Query.Basic
import RecordQuery.Query.Condition
import RecordQuery.Query.RowOrder
import RecordQuery.QueryError
import RecordQuery.Sample
import RecordQuery.Settings
import RecordQuery.Shell.Arguments
import RecordQuery.Shell.Program
import RecordQuery.Shell.Session
import RecordQuery.Shell.Typing
import RecordQuery.Sql.Basic
import RecordQuery.Sql.Text
import RecordQuery.Text.Basic
import RecordQuery.Text.CaseBlocks
import RecordQuery.Text.Casing
import RecordQuery.Text.Folding
import RecordQuery.Text.Grapheme
import RecordQuery.Text.GraphemeExtend
import RecordQuery.Text.GraphemeRole
import RecordQuery.Text.Printable
import RecordQuery.Text.Quoted
import RecordQuery.Text.Ranges
import RecordQuery.Value.Basic
import RecordQuery.Value.Kind
import RecordQuery.View.Basic
import RecordQuery.View.Builder
import RecordQuery.View.Registry
