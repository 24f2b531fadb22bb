import TypedSql.Text.Utf8
import TypedSql.Text.Blank
import TypedSql.Text.Truncate
import TypedSql.Text.Quoted
import TypedSql.Number.Rounding
import TypedSql.Number.Layout
import TypedSql.Json.Printer
import TypedSql.Value.Json
import TypedSql.Value.Decode
import TypedSql.Error
import TypedSql.ColumnMap
import TypedSql.Name.Parser
import TypedSql.Filter.Basic
import TypedSql.Query.Select
import TypedSql.Query.Insert
import TypedSql.Query.Update
import TypedSql.Query.Delete
import TypedSql.Session.Client
import TypedSql.Table.Record
import TypedSql.Table.Basic
import TypedSql.Session.Scripted
import TypedSql.Session.Transaction
import TypedSql.Session.Replay
import TypedSql.Proofs.Draft
import TypedSql.Proofs.Request
import TypedSql.Proofs.Quiet
import TypedSql.Proofs.Alignment
import TypedSql.Proofs.Expression
import TypedSql.Proofs.FilterReading
import TypedSql.Proofs.MapValues
import TypedSql.Proofs.ValueBlindness
import TypedSql.Proofs.Renaming
import TypedSql.Proofs.QuoteSafety
import TypedSql.Proofs.LeastRecentlyUsed
import TypedSql.Proofs.CacheTransparency
import TypedSql.Proofs.TransactionBracket
import TypedSql.Proofs.Terminals
import TypedSql.Proofs.ClauseOrder
import TypedSql.Proofs.InsertProtocol
import TypedSql.Proofs.OwnRow
import TypedSql.Proofs.TransactionControl
import TypedSql.Proofs.SavedCells
import TypedSql.Proofs.InsertResults
import TypedSql.Proofs.SavedNames
import TypedSql.Proofs.BoundedWrites
import TypedSql.Proofs.NameRoundTrip
import TypedSql.Proofs.AppendOnly
import TypedSql.Proofs.ClauseKeywords
import TypedSql.Proofs.Conventions
import TypedSql.Proofs.OperatorSlots
import TypedSql.Proofs.ColumnHistory
import TypedSql.Proofs.JsonRows
import TypedSql.Proofs.KeyLookup
import TypedSql.Proofs.RowShape
import TypedSql.Proofs.LogLimit
