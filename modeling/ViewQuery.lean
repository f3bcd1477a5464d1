import ViewQuery.Filter.Inspect
import ViewQuery.Main
import ViewQuery.Proofs.CommandLine.AllOrNothing
import ViewQuery.Proofs.CommandLine.FilteredRows
import ViewQuery.Proofs.CommandLine.RequestParams
import ViewQuery.Proofs.Component.Additions
import ViewQuery.Proofs.Component.Base
import ViewQuery.Proofs.Component.Built
import ViewQuery.Proofs.Component.ClientId
import ViewQuery.Proofs.Component.DocumentOrder
import ViewQuery.Proofs.Component.Path
import ViewQuery.Proofs.Component.ReadBack
import ViewQuery.Proofs.Component.Reading
import ViewQuery.Proofs.Component.RelativePath
import ViewQuery.Proofs.Component.Scope
import ViewQuery.Proofs.Config.Accepted
import ViewQuery.Proofs.Config.FirstViolation
import ViewQuery.Proofs.Diagnostics.Window
import ViewQuery.Proofs.Expression.Absolute
import ViewQuery.Proofs.Expression.Agreement
import ViewQuery.Proofs.Expression.Chain
import ViewQuery.Proofs.Expression.ChildIndex
import ViewQuery.Proofs.Expression.ClientToken
import ViewQuery.Proofs.Expression.HopReports
import ViewQuery.Proofs.Expression.Joining
import ViewQuery.Proofs.Expression.Keywords
import ViewQuery.Proofs.Expression.Lists
import ViewQuery.Proofs.Expression.Navigation
import ViewQuery.Proofs.Expression.PathLinks
import ViewQuery.Proofs.Expression.Pieces
import ViewQuery.Proofs.Expression.PlainPath
import ViewQuery.Proofs.Expression.Safety
import ViewQuery.Proofs.Expression.Segments
import ViewQuery.Proofs.Expression.SoleKeywords
import ViewQuery.Proofs.Expression.Spans
import ViewQuery.Proofs.Expression.Stages
import ViewQuery.Proofs.Expression.TokenList
import ViewQuery.Proofs.Filter.Applied
import ViewQuery.Proofs.Filter.ColumnIndex
import ViewQuery.Proofs.Filter.Configured
import ViewQuery.Proofs.Filter.Decode
import ViewQuery.Proofs.Filter.Failure
import ViewQuery.Proofs.Filter.FlatRows
import ViewQuery.Proofs.Filter.History
import ViewQuery.Proofs.Filter.LetterCase
import ViewQuery.Proofs.Filter.Matching
import ViewQuery.Proofs.Filter.Narrowing
import ViewQuery.Proofs.Filter.Parameters
import ViewQuery.Proofs.Filter.RowReports
import ViewQuery.Proofs.Filter.Selection
import ViewQuery.Proofs.Filter.Warning
import ViewQuery.Proofs.Json.Compact
import ViewQuery.Proofs.Number.Index
import ViewQuery.Proofs.Outcome
import ViewQuery.Proofs.Text.FirstCut
import ViewQuery.Proofs.Text.Join
import ViewQuery.Proofs.Text.Lowercase
import ViewQuery.Proofs.Text.Trim
