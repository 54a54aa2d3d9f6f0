import ListQuery.DefaultConfig
import ListQuery.Json.Query
import ListQuery.Main
import ListQuery.Sample.Hooks
import ListQuery.Sample.Models
import ListQuery.Proofs.Sql.Evaluation
import ListQuery.Proofs.Sql.Pattern
import ListQuery.Proofs.Sql.Agreement
import ListQuery.Proofs.Sql.Reader
import ListQuery.Proofs.Sql.Pieces
import ListQuery.Proofs.Sql.Constants
import ListQuery.Proofs.Sql.Identifiers
import ListQuery.Proofs.Filter.Derivation
import ListQuery.Proofs.Filter.Recognition
import ListQuery.Proofs.Filter.Gluing
import ListQuery.Proofs.Filter.Parsing
import ListQuery.Proofs.Filter.Quoting
import ListQuery.Proofs.Filter.Composition
import ListQuery.Proofs.Compile.Outcome
import ListQuery.Proofs.Compile.Reading
import ListQuery.Proofs.Schema.Leads
import ListQuery.Proofs.Schema.Records
import ListQuery.Proofs.Compile.Typing
import ListQuery.Proofs.Compile.Strictness
import ListQuery.Proofs.Compile.Pruning
import ListQuery.Proofs.Filter.Faults
import ListQuery.Proofs.Plan.Positions
import ListQuery.Proofs.Plan.Concealment
import ListQuery.Proofs.Filter.Spans
import ListQuery.Proofs.Plan.Paging
import ListQuery.Proofs.Filter.Respelling
import ListQuery.Proofs.Filter.Writing
import ListQuery.Proofs.Filter.Expectation
import ListQuery.Proofs.Filter.FirstFault
import ListQuery.Proofs.Sql.Demands
import ListQuery.Proofs.Number.Rounding
import ListQuery.Proofs.Order.Preorder
import ListQuery.Proofs.Order.StableSort
import ListQuery.Proofs.Value.Sorting
import ListQuery.Proofs.Plan.Ordering
import ListQuery.Proofs.Text.Bytes
import ListQuery.Proofs.Text.Case
import ListQuery.Proofs.Text.Sigma
import ListQuery.Proofs.Schema.Resolution
import ListQuery.Proofs.Compile.ListClauses
import ListQuery.Proofs.Sql.Page
import ListQuery.Proofs.Sql.Disjunctions
import ListQuery.Proofs.Compile.Folding
import ListQuery.Proofs.Filter.Recasing
import ListQuery.Proofs.Compile.Recasing
import ListQuery.Proofs.Plan.Recasing
import ListQuery.Proofs.Compile.Operators
import ListQuery.Proofs.Plan.Hooks
import ListQuery.Proofs.Plan.Runs
import ListQuery.Proofs.Number.Digits
import ListQuery.Proofs.Filter.Constants
import ListQuery.Proofs.Filter.Nesting
import ListQuery.Proofs.Sql.Depth
import ListQuery.Proofs.Mapping.Rules
import ListQuery.Proofs.Mapping.Reordering
import ListQuery.Proofs.Calendar.Days
import ListQuery.Proofs.Calendar.Reading
import ListQuery.Proofs.Sql.Wildcards
import ListQuery.Proofs.Json.Reading
import ListQuery.Proofs.Json.Constants
