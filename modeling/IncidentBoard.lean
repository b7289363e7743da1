import IncidentBoard.Access.Directory
import IncidentBoard.Access.Scope
import IncidentBoard.Board
import IncidentBoard.Bucket
import IncidentBoard.Calendar.Date
import IncidentBoard.Calendar.Layout
import IncidentBoard.Calendar.Text
import IncidentBoard.Calendar.Timestamp
import IncidentBoard.Command.Arguments
import IncidentBoard.Command.Database
import IncidentBoard.Command.Option
import IncidentBoard.Command.Report
import IncidentBoard.Decimal.Numeral
import IncidentBoard.Decimal.Shortest
import IncidentBoard.Decimal.Style
import IncidentBoard.Engine
import IncidentBoard.FileTree
import IncidentBoard.Host
import IncidentBoard.Json.Basic
import IncidentBoard.Json.Document
import IncidentBoard.Keyed
import IncidentBoard.Main
import IncidentBoard.Payload.Axis
import IncidentBoard.Payload.Basic
import IncidentBoard.Payload.Coerce
import IncidentBoard.Payload.Scalar
import IncidentBoard.Payload.Series
import IncidentBoard.Payload.Table
import IncidentBoard.Plan.Basic
import IncidentBoard.Plan.Coercion
import IncidentBoard.Plan.Compile
import IncidentBoard.Plan.Predicate
import IncidentBoard.Proofs.Access.Narrowing
import IncidentBoard.Proofs.Access.Restriction
import IncidentBoard.Proofs.Board.Isolation
import IncidentBoard.Proofs.Calendar.BareDate
import IncidentBoard.Proofs.Calendar.Chronology
import IncidentBoard.Proofs.Calendar.Clock
import IncidentBoard.Proofs.Calendar.Ends
import IncidentBoard.Proofs.Calendar.Fields
import IncidentBoard.Proofs.Calendar.Flooring
import IncidentBoard.Proofs.Calendar.Iso
import IncidentBoard.Proofs.Calendar.Moments
import IncidentBoard.Proofs.Calendar.Offsets
import IncidentBoard.Proofs.Calendar.Partition
import IncidentBoard.Proofs.Calendar.Range
import IncidentBoard.Proofs.Decimal.Numerals
import IncidentBoard.Proofs.Json.Values
import IncidentBoard.Proofs.Lists
import IncidentBoard.Proofs.Payload.Axis
import IncidentBoard.Proofs.Payload.Chronology
import IncidentBoard.Proofs.Payload.Failure
import IncidentBoard.Proofs.Payload.FanOut
import IncidentBoard.Proofs.Payload.Gaps
import IncidentBoard.Proofs.Payload.History
import IncidentBoard.Proofs.Payload.Lookup
import IncidentBoard.Proofs.Payload.Series
import IncidentBoard.Proofs.Payload.Table
import IncidentBoard.Proofs.Payload.Tallies
import IncidentBoard.Proofs.Plan.Alike
import IncidentBoard.Proofs.Plan.Bucketing
import IncidentBoard.Proofs.Plan.Condition
import IncidentBoard.Proofs.Plan.Conjuncts
import IncidentBoard.Proofs.Plan.Containment
import IncidentBoard.Proofs.Plan.Grouped
import IncidentBoard.Proofs.Plan.Independence
import IncidentBoard.Proofs.Plan.Joins
import IncidentBoard.Proofs.Plan.Meaning
import IncidentBoard.Proofs.Plan.Nodes
import IncidentBoard.Proofs.Plan.Outline
import IncidentBoard.Proofs.Plan.Placeholders
import IncidentBoard.Proofs.Plan.Refusal
import IncidentBoard.Proofs.Plan.Regrouping
import IncidentBoard.Proofs.Plan.Rows
import IncidentBoard.Proofs.Plan.Shape
import IncidentBoard.Proofs.Plan.Share
import IncidentBoard.Proofs.Plan.Sound
import IncidentBoard.Proofs.Plan.Steps
import IncidentBoard.Proofs.Plan.Text
import IncidentBoard.Proofs.Plan.Vocabulary
import IncidentBoard.Proofs.Plan.WholeDay
import IncidentBoard.Proofs.Schema.Registered
import IncidentBoard.Proofs.Settings.Variables
import IncidentBoard.Proofs.Sql.Aggregation
import IncidentBoard.Proofs.Sql.Clause
import IncidentBoard.Proofs.Sql.Composed
import IncidentBoard.Proofs.Sql.Conjuncts
import IncidentBoard.Proofs.Sql.Evaluation
import IncidentBoard.Proofs.Sql.Exposed
import IncidentBoard.Proofs.Sql.Frame
import IncidentBoard.Proofs.Sql.Grouping
import IncidentBoard.Proofs.Sql.Nesting
import IncidentBoard.Proofs.Sql.Nodes
import IncidentBoard.Proofs.Sql.Normal
import IncidentBoard.Proofs.Sql.Placeholders
import IncidentBoard.Proofs.Sql.Quotes
import IncidentBoard.Proofs.Sql.Readback
import IncidentBoard.Proofs.Sql.Reading
import IncidentBoard.Proofs.Sql.Words
import IncidentBoard.Proofs.Sqlite.Buckets
import IncidentBoard.Proofs.Sqlite.Grouping
import IncidentBoard.Proofs.Sqlite.Ordering
import IncidentBoard.Proofs.Sqlite.Terms
import IncidentBoard.Proofs.Sqlite.Values
import IncidentBoard.Proofs.Store.Binding
import IncidentBoard.Proofs.Store.Cells
import IncidentBoard.Proofs.Store.Decoding
import IncidentBoard.Proofs.Text.ByteOrder
import IncidentBoard.Proofs.Text.DigitOrder
import IncidentBoard.Proofs.Text.Digits
import IncidentBoard.Proofs.Text.Upper
import IncidentBoard.Proofs.Text.Utf8
import IncidentBoard.Proofs.Widget.Bounds
import IncidentBoard.Proofs.Widget.RoundTrip
import IncidentBoard.Proofs.Widget.Window
import IncidentBoard.Schema.Basic
import IncidentBoard.Schema.Incidents
import IncidentBoard.Settings.Basic
import IncidentBoard.Settings.Load
import IncidentBoard.Settings.Reader
import IncidentBoard.Settings.Variables
import IncidentBoard.Sql.Expr
import IncidentBoard.Sql.Printer
import IncidentBoard.Sql.Token
import IncidentBoard.Store.Basic
import IncidentBoard.Store.Cell
import IncidentBoard.Store.Location
import IncidentBoard.Text.Blank
import IncidentBoard.Text.Digit
import IncidentBoard.Text.Letter
import IncidentBoard.Text.Percent
import IncidentBoard.Text.Printable
import IncidentBoard.Text.Quoted
import IncidentBoard.Text.Spans
import IncidentBoard.Text.Split
import IncidentBoard.Text.Upper
import IncidentBoard.Text.Utf8
import IncidentBoard.Text.WordChar
import IncidentBoard.Toml.Document
import IncidentBoard.Toml.Scalar
import IncidentBoard.Toml.Value
import IncidentBoard.Widget.Basic
import IncidentBoard.Widget.Error
import IncidentBoard.Widget.Reader
import IncidentBoard.Widget.Writer
import IncidentBoard.Word
