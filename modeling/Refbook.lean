import Refbook.Peg.Run
import Refbook.Query.Grammar
import Refbook.Error
import Refbook.Json.Write
import Refbook.Json.Read
import Refbook.Text.Blank
import Refbook.Text.SortedSet
import Refbook.Text.Digit
import Refbook.Decimal.Canonical
import Refbook.Decimal.Order
import Refbook.Temporal.Read
import Refbook.Query.Expression
import Refbook.Query.Parse
import Refbook.Query.Encode
import Refbook.Dict.Basic
import Refbook.Dict.Json
import Refbook.Query.Catalog
import Refbook.Sql.Identifier
import Refbook.Sql.Compile
import Refbook.Document.Compile
import Refbook.Regex.Compile
import Refbook.Document.Filter
import Refbook.Peg.Report
import Refbook.Ddl.Grammar
import Refbook.Ddl.Statement
import Refbook.Ddl.Parse
import Refbook.Ddl.Encode
import Refbook.Ddl.ColumnType
import Refbook.Migration.Version
import Refbook.Digest.Blake3
import Refbook.Decimal.Double
import Refbook.Dict.Validate
import Refbook.Text.Quote
import Refbook.Settings
import Refbook.Export.Format
import Refbook.Store.Item
import Refbook.Relational.Value
import Refbook.Relational.Database
import Refbook.Relational.Eval
import Refbook.Migration.Applied
import Refbook.Relational.Engine
import Refbook.Document.Store
import Refbook.Document.Engine
import Refbook.Store.World
import Refbook.Store.Dicts
import Refbook.Store.Records
import Refbook.Export.Render
import Refbook.Store.Transfer
import Refbook.Ddl.Interpret
import Refbook.Migration.Run
import Refbook.Store.Placement
import Refbook.Session.Mask
import Refbook.Session.Step
import Refbook.Command
import Refbook.Main
import Refbook.Proofs.Reads
import Refbook.Proofs.Transactions
import Refbook.Proofs.Versions
import Refbook.Proofs.Comparisons
import Refbook.Proofs.SqlText
import Refbook.Proofs.SqlParams
import Refbook.Proofs.SqlBinding
import Refbook.Proofs.SchemeChange
import Refbook.Proofs.Uniqueness
import Refbook.Proofs.MigrationBatch
import Refbook.Proofs.DecimalColumns
import Refbook.Proofs.StorageMove
import Refbook.Proofs.JsonText
import Refbook.Proofs.CompileFailures
import Refbook.Proofs.ExportReplay
import Refbook.Proofs.NestedTransactions
import Refbook.Proofs.DecimalText
import Refbook.Proofs.TemporalText
import Refbook.Proofs.CanonicalRecords
import Refbook.Proofs.NumericFields
import Refbook.Proofs.MigrationRerun
import Refbook.Proofs.VersionOrder
import Refbook.Proofs.UpdateStatement
import Refbook.Proofs.ParseTrees
import Refbook.Proofs.FilterTrees
import Refbook.Proofs.FilterReading
import Refbook.Proofs.PatternMeaning
import Refbook.Proofs.PatternReading
import Refbook.Proofs.LikePatterns
import Refbook.Proofs.DanglingEscape
import Refbook.Proofs.KeptState
import Refbook.Proofs.OwnTables
import Refbook.Proofs.OwnCollections
import Refbook.Proofs.ScriptFrame
import Refbook.Proofs.HistoryStore
import Refbook.Proofs.MigrationHistory
import Refbook.Proofs.RecordSlots
import Refbook.Proofs.Evictions
import Refbook.Proofs.MovedRecords
