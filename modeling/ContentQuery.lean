import ContentQuery.Arithmetic
import ContentQuery.Binary64
import ContentQuery.Binding.Basic
import ContentQuery.Binding.Bind
import ContentQuery.Binding.Error
import ContentQuery.Calls
import ContentQuery.Catalog.Basic
import ContentQuery.Catalog.File
import ContentQuery.CommandLine.Options
import ContentQuery.CommandLine.Shell
import ContentQuery.Config
import ContentQuery.Decimal
import ContentQuery.Error
import ContentQuery.Evaluation.Basic
import ContentQuery.Evaluation.Predicate
import ContentQuery.Evaluation.SortKey
import ContentQuery.Execution.Join
import ContentQuery.Execution.Query
import ContentQuery.FullText.Matching
import ContentQuery.FullText.Parser
import ContentQuery.FullText.Printer
import ContentQuery.FullText.Tree
import ContentQuery.Json.Basic
import ContentQuery.Json.Parser
import ContentQuery.Json.Printer
import ContentQuery.Json.Record
import ContentQuery.Like
import ContentQuery.Literal
import ContentQuery.Main
import ContentQuery.OrderedMap
import ContentQuery.Proofs.Binding.Bound
import ContentQuery.Proofs.Binding.Discipline
import ContentQuery.Proofs.Binding.Filter
import ContentQuery.Proofs.Binding.Lookup
import ContentQuery.Proofs.Binding.Meaning
import ContentQuery.Proofs.Binding.Names
import ContentQuery.Proofs.Binding.Steps
import ContentQuery.Proofs.Calls
import ContentQuery.Proofs.Catalog.Ancestry
import ContentQuery.Proofs.Catalog.Calls
import ContentQuery.Proofs.Catalog.Definitions
import ContentQuery.Proofs.Catalog.File
import ContentQuery.Proofs.Catalog.Inheritance
import ContentQuery.Proofs.Couplings
import ContentQuery.Proofs.Evaluation.Answers
import ContentQuery.Proofs.Evaluation.Comparisons
import ContentQuery.Proofs.Evaluation.Computes
import ContentQuery.Proofs.Evaluation.Faults
import ContentQuery.Proofs.Evaluation.KeyOrder
import ContentQuery.Proofs.Evaluation.Membership
import ContentQuery.Proofs.Evaluation.Operands
import ContentQuery.Proofs.Evaluation.Patterns
import ContentQuery.Proofs.Evaluation.Reading
import ContentQuery.Proofs.Evaluation.Rows
import ContentQuery.Proofs.Evaluation.TextTests
import ContentQuery.Proofs.Execution.Children
import ContentQuery.Proofs.Execution.Columns
import ContentQuery.Proofs.Execution.CrossProduct
import ContentQuery.Proofs.Execution.Descendants
import ContentQuery.Proofs.Execution.Failures
import ContentQuery.Proofs.Execution.FolderTests
import ContentQuery.Proofs.Execution.Joins
import ContentQuery.Proofs.Execution.Ordering
import ContentQuery.Proofs.Execution.Outcome
import ContentQuery.Proofs.Execution.OwnIndex
import ContentQuery.Proofs.Execution.Paging
import ContentQuery.Proofs.Execution.Projection
import ContentQuery.Proofs.Execution.Results
import ContentQuery.Proofs.Execution.Runs
import ContentQuery.Proofs.Execution.SingleType
import ContentQuery.Proofs.FullText.Fields
import ContentQuery.Proofs.FullText.LetterCase
import ContentQuery.Proofs.FullText.Matching
import ContentQuery.Proofs.FullText.Pieces
import ContentQuery.Proofs.FullText.RoundTrip
import ContentQuery.Proofs.FullText.Shape
import ContentQuery.Proofs.FullText.Tokens
import ContentQuery.Proofs.FullText.Walks
import ContentQuery.Proofs.Json.Numbers
import ContentQuery.Proofs.Json.RoundTrip
import ContentQuery.Proofs.Like.Matching
import ContentQuery.Proofs.Like.Patterns
import ContentQuery.Proofs.Literal
import ContentQuery.Proofs.Number.Decimals
import ContentQuery.Proofs.Number.Digits
import ContentQuery.Proofs.Number.Integers
import ContentQuery.Proofs.Number.Literals
import ContentQuery.Proofs.Number.Rounding
import ContentQuery.Proofs.Number.Shortest
import ContentQuery.Proofs.Number.ShortestText
import ContentQuery.Proofs.Number.Spelling
import ContentQuery.Proofs.Qualifiers.Blanks
import ContentQuery.Proofs.Qualifiers.Fates
import ContentQuery.Proofs.Qualifiers.Grammar
import ContentQuery.Proofs.Qualifiers.References
import ContentQuery.Proofs.Qualifiers.Tokens
import ContentQuery.Proofs.Renaming.Basic
import ContentQuery.Proofs.Renaming.Binding
import ContentQuery.Proofs.Renaming.Evaluation
import ContentQuery.Proofs.Renaming.Execution
import ContentQuery.Proofs.Renaming.Statements
import ContentQuery.Proofs.Repository.Ancestors
import ContentQuery.Proofs.Repository.Inserts
import ContentQuery.Proofs.Repository.Keyed
import ContentQuery.Proofs.Repository.Loading
import ContentQuery.Proofs.Repository.Numbers
import ContentQuery.Proofs.Run
import ContentQuery.Proofs.Statement.Conditions
import ContentQuery.Proofs.Statement.Outcomes
import ContentQuery.Proofs.Statement.Parsed
import ContentQuery.Proofs.Statement.Reading
import ContentQuery.Proofs.Statement.Rereading
import ContentQuery.Proofs.Statement.RoundTrip
import ContentQuery.Proofs.Statement.Shape
import ContentQuery.Proofs.Statement.StringLiterals
import ContentQuery.Proofs.Statement.Tokens
import ContentQuery.Proofs.Statement.WellFormed
import ContentQuery.Proofs.Statement.Written
import ContentQuery.Proofs.Timestamp.Calendar
import ContentQuery.Proofs.Timestamp.LocalTime
import ContentQuery.Proofs.Timestamp.Offsets
import ContentQuery.Proofs.Walks.Nesting
import ContentQuery.Proofs.Walks.Nodes
import ContentQuery.Proofs.Walks.Recording
import ContentQuery.Proofs.Walks.Trees
import ContentQuery.Report.Result
import ContentQuery.Report.Table
import ContentQuery.Repository.Basic
import ContentQuery.Repository.Fixture
import ContentQuery.Statement.Basic
import ContentQuery.Statement.Lexer
import ContentQuery.Statement.Parser
import ContentQuery.Statement.Predicate
import ContentQuery.Statement.Printer
import ContentQuery.Text.CharClass
import ContentQuery.Text.Digits
import ContentQuery.Text.DisplayWidth
import ContentQuery.Text.Emoji
import ContentQuery.Text.Lines
import ContentQuery.Text.Lowercase
import ContentQuery.Text.Quoted
import ContentQuery.Text.Width
import ContentQuery.Timestamp
import ContentQuery.Value
import ContentQuery.Walk
