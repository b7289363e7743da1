import IncidentBoard.Bucket
import IncidentBoard.Json.Basic

/-! Widget definitions: what a dashboard's author asks for. -/
namespace IncidentBoard

namespace Widget

inductive ChartType
  | bar | line | pie | number | percentage | table | timechart
  deriving DecidableEq, Repr

def ChartType.all : List ChartType := [.bar, .line, .pie, .number, .percentage, .table, .timechart]

def ChartType.name : ChartType → String
  | .bar => "bar"
  | .line => "line"
  | .pie => "pie"
  | .number => "number"
  | .percentage => "percentage"
  | .table => "table"
  | .timechart => "timechart"

inductive SortOrder
  | asc | desc
  deriving DecidableEq, Repr

def SortOrder.all : List SortOrder := [.asc, .desc]

def SortOrder.name : SortOrder → String
  | .asc => "asc"
  | .desc => "desc"

/-- What the points of a series show. -/
inductive DisplayMode
  | number | percentage | numberPercentage
  deriving DecidableEq, Repr

def DisplayMode.all : List DisplayMode := [.number, .percentage, .numberPercentage]

def DisplayMode.name : DisplayMode → String
  | .number => "number"
  | .percentage => "percentage"
  | .numberPercentage => "number_percentage"

inductive Operator
  | eq | neq | gt | gte | lt | lte | isIn | notIn | between | contains
  deriving DecidableEq, Repr

def Operator.all : List Operator :=
  [.eq, .neq, .gt, .gte, .lt, .lte, .isIn, .notIn, .between, .contains]

def Operator.name : Operator → String
  | .eq => "eq"
  | .neq => "neq"
  | .gt => "gt"
  | .gte => "gte"
  | .lt => "lt"
  | .lte => "lte"
  | .isIn => "in"
  | .notIn => "nin"
  | .between => "between"
  | .contains => "contains"

def Operator.ofName? (s : String) : Option Operator := Operator.all.find? (·.name == s)

/-- `ratio` is the share of the rows that pass a filter, in percent. -/
inductive Aggregation
  | count | sum | avg | min | max | ratio
  deriving DecidableEq, Repr

def Aggregation.all : List Aggregation := [.count, .sum, .avg, .min, .max, .ratio]

def Aggregation.name : Aggregation → String
  | .count => "count"
  | .sum => "sum"
  | .avg => "avg"
  | .min => "min"
  | .max => "max"
  | .ratio => "ratio"

def Aggregation.ofName? (s : String) : Option Aggregation := Aggregation.all.find? (·.name == s)

/-- The names of operators and aggregations are kept as written: that one is unknown is for the
compiler to say. -/
structure Filter where
  table : String
  column : String
  operator : String
  value : Json

/-- A selected column, perhaps aggregated over the rows that pass a filter. -/
structure Field where
  table : String
  column : String
  label : Option String
  aggregation : Option String
  filter : Option Filter

structure Options where
  timeColumn : Option String := none
  sort : Option SortOrder := none
  limit : Option Int64 := none
  display : Option DisplayMode := none
  percentageNumerator : Option String := none
  percentageDenominator : Option String := none
  totalLabel : Option String := none

structure Definition where
  chartType : Option ChartType := none
  fields : List Field := []
  groupBy : List String := []
  filters : List Filter := []
  timeBucket : Option Bucket := none
  options : Options := {}

end Widget

/-- A window of time, open where a bound is missing; both bounds belong to it. -/
structure Timeframe where
  start : Option Timestamp
  stop : Option Timestamp
  deriving DecidableEq

namespace Timeframe

def unbounded : Timeframe := ⟨none, none⟩

def bounds? (w : Timeframe) : Option (Timestamp × Timestamp) := do
  return (← w.start, ← w.stop)

end Timeframe

end IncidentBoard
