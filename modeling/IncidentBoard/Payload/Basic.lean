import IncidentBoard.Payload.Scalar
import IncidentBoard.Payload.Series
import IncidentBoard.Payload.Table

/-! Results as charts, and their JSON. -/
namespace IncidentBoard

open Store Widget

inductive Payload
  | series (s : Payload.Series)
  | scalar (s : Payload.Scalar)
  | table (t : Payload.Table)

namespace Payload

def chartType : Payload → ChartType
  | .series s => s.chartType
  | .scalar s => s.chartType
  | .table t => t.chartType

/-- The chart of a result; nothing if the points of a bucketed window leave the calendar. -/
def format? (r : Result) (o : Options) (w : Timeframe) (maxPoints : Nat) : Option Payload :=
  match r.chartType with
  | .bar | .line | .pie | .timechart => (formatSeries? r o w maxPoints).map .series
  | .number | .percentage => some (.scalar (scalarOf r o))
  | .table => some (.table (tableOf r o))

def strings (l : List String) : Json := .arr (l.map .str)

def Dataset.toJson (d : Dataset) : Json :=
  .ofMembers [("label", .str d.label), ("data", .arr (d.data.map .float)),
    ("display", strings d.display), ("total", .ofOption .float d.total)]

def TableCell.toJson (c : TableCell) : Json :=
  .ofMembers [("value", .ofOption .float c.value), ("display", .str c.display),
    ("share", .ofOption .float c.share), ("percentage", .str c.percentage)]

def TableRow.toJson (r : TableRow) : Json :=
  .ofMembers [("groups", .ofKeyed .str r.groups), ("values", .ofKeyed TableCell.toJson r.values)]

def toJson : Payload → Json
  | .series s =>
    .ofMembers [
      ("kind", .str "series"),
      ("chart_type", .str s.chartType.name),
      ("labels", strings s.labels),
      ("keys", strings s.keys),
      ("datasets", .arr (s.datasets.map Dataset.toJson)),
      ("totals", .ofKeyed (.ofOption .float) s.totals),
      ("percentages", .ofKeyed (.ofOption .float) s.percentages),
      ("grand_total", .ofOption .float s.grandTotal),
      ("total_label", .str s.totalLabel)]
  | .scalar s =>
    .ofMembers [
      ("kind", .str "scalar"),
      ("chart_type", .str s.chartType.name),
      ("label", .str s.label),
      ("value", .str s.value),
      ("raw", .ofOption .float s.raw)]
  | .table t =>
    .ofMembers [
      ("kind", .str "table"),
      ("chart_type", .str t.chartType.name),
      ("group_columns", strings t.groupColumns),
      ("value_columns", strings t.valueColumns),
      ("rows", .arr (t.rows.map TableRow.toJson)),
      ("totals", .ofKeyed (.ofOption .float) t.totals),
      ("total_display", .ofKeyed .str t.totalDisplay),
      ("total_label", .str t.totalLabel)]

end Payload

end IncidentBoard
