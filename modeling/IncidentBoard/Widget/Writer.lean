import IncidentBoard.Calendar.Text
import IncidentBoard.Widget.Basic

/-! JSON of definitions and windows. -/
namespace IncidentBoard

namespace Widget

def Filter.toJson (f : Filter) : Json :=
  .ofMembers [("table", .str f.table), ("column", .str f.column), ("operator", .str f.operator),
    ("value", f.value)]

/-- A member that is there only if there is a value for it. -/
def member {α : Type} (key : String) (f : α → Json) (a : Option α) : List (String × Json) :=
  (a.map fun a => (key, f a)).toList

def Field.toJson (f : Field) : Json :=
  .ofMembers ([("table", .str f.table), ("column", .str f.column)]
    ++ member "alias" .str f.label
    ++ member "aggregation" .str f.aggregation
    ++ member "filter" Filter.toJson f.filter)

def Options.toJson (o : Options) : Json :=
  .ofMembers [
    ("time_column", .ofOption .str o.timeColumn),
    ("sort", .ofOption (.str ·.name) o.sort),
    ("limit", .ofOption (fun n => .int n.toInt) o.limit),
    ("display", .ofOption (.str ·.name) o.display),
    ("percentage_numerator", .ofOption .str o.percentageNumerator),
    ("percentage_denominator", .ofOption .str o.percentageDenominator),
    ("total_label", .ofOption .str o.totalLabel)]

def Definition.toJson (d : Definition) : Json :=
  .ofMembers [
    ("chart_type", .ofOption (.str ·.name) d.chartType),
    ("fields", .arr (d.fields.map Field.toJson)),
    ("group_by", .arr (d.groupBy.map .str)),
    ("filters", .arr (d.filters.map Filter.toJson)),
    ("time_bucket", .ofOption (.str ·.name) d.timeBucket),
    ("options", d.options.toJson)]

end Widget

def Timeframe.toJson (w : Timeframe) : Json :=
  .ofMembers [("start", .ofOption (.str ·.exactText) w.start),
    ("end", .ofOption (.str ·.exactText) w.stop)]

end IncidentBoard
