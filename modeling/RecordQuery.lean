import RecordQuery.Main
import RecordQuery.Query.Printer
import RecordQuery.Proofs.Command.Course
import RecordQuery.Proofs.Command.Outcome
import RecordQuery.Proofs.Execution.PageBound
import RecordQuery.Proofs.Execution.Paging
import RecordQuery.Proofs.Execution.Skipping
import RecordQuery.Proofs.Execution.Stages
import RecordQuery.Proofs.Execution.Trace
import RecordQuery.Proofs.FieldMap.History
import RecordQuery.Proofs.Instant.OuterBlanks
import RecordQuery.Proofs.Instant.SignedYear
import RecordQuery.Proofs.Instant.TakenText
import RecordQuery.Proofs.Instant.Timestamp
import RecordQuery.Proofs.Json.DistinctNames
import RecordQuery.Proofs.Json.OneLine
import RecordQuery.Proofs.Json.ReadBack
import RecordQuery.Proofs.Literal.DateTokens
import RecordQuery.Proofs.Literal.Spelling
import RecordQuery.Proofs.Literal.TextReadBack
import RecordQuery.Proofs.Log.LineFields
import RecordQuery.Proofs.Log.LineText
import RecordQuery.Proofs.Log.Threshold
import RecordQuery.Proofs.Matching.Comparisons
import RecordQuery.Proofs.Matching.ExactOccurrence
import RecordQuery.Proofs.Matching.SearchTerms
import RecordQuery.Proofs.Matching.TokenText
import RecordQuery.Proofs.Number.Integers
import RecordQuery.Proofs.Query.Accounting
import RecordQuery.Proofs.Query.Composition
import RecordQuery.Proofs.Query.EntryPoints
import RecordQuery.Proofs.Query.FilterClause
import RecordQuery.Proofs.Query.FilterParameter
import RecordQuery.Proofs.Query.FirstValues
import RecordQuery.Proofs.Query.LeftmostCut
import RecordQuery.Proofs.Query.Lists
import RecordQuery.Proofs.Query.NormalForm
import RecordQuery.Proofs.Query.OrderClause
import RecordQuery.Proofs.Query.Predicates
import RecordQuery.Proofs.Query.QuotedText
import RecordQuery.Proofs.Query.RoundTrip
import RecordQuery.Proofs.Query.Strictness
import RecordQuery.Proofs.Record.JsonRoundTrip
import RecordQuery.Proofs.Record.LoadingAccount
import RecordQuery.Proofs.Record.Making
import RecordQuery.Proofs.Record.Projection
import RecordQuery.Proofs.Record.Reload
import RecordQuery.Proofs.Record.ResultText
import RecordQuery.Proofs.Sorting.Blocks
import RecordQuery.Proofs.Sorting.MissingField
import RecordQuery.Proofs.Sorting.Neighbours
import RecordQuery.Proofs.Sorting.Stability
import RecordQuery.Proofs.Sorting.Successive
import RecordQuery.Proofs.Text.ByteOrder
