import IncidentBoard.Payload.Axis
import IncidentBoard.Store.Basic

/-! Charts of series: a dataset for each value column and each combination of the further groups,
with a point for each value of the first group. -/
namespace IncidentBoard.Payload

open Store Widget

structure Dataset where
  label : String
  data : List Float
  display : List String
  total : Option Float

structure Series where
  chartType : ChartType
  labels : List String
  keys : List String
  datasets : List Dataset
  totals : Keyed (Option Float)
  percentages : Keyed (Option Float)
  grandTotal : Option Float
  totalLabel : String

def defaultTotalLabel : String := "Total"

/-- The numbers that fell on one point so far. -/
structure Tally where
  sum : Float := 0
  observed : Bool := false

def Tally.add (t : Tally) (x : Option Float) : Tally :=
  match x with
  | some x => ⟨t.sum + x, true⟩
  | none => t

/-- Tallies by value column, series and point. -/
abbrev Tallies := Std.HashMap (Nat × Nat × Nat) Tally

/-- Adds up numbers from left to right, starting from zero; nothing if there are none. -/
def total (xs : List Float) : Option Float := xs.foldl (fun acc x => some (acc.getD 0 + x)) none

/-- The values of the further groups of a row as one. -/
def combined (row : Row) (labels : List String) : GroupValue :=
  let parts := labels.map fun label => groupValue (row.get? label) none
  ⟨"\x1f".intercalate (parts.map (·.key)), " / ".intercalate (parts.map (·.display))⟩

/-- The value of the first group, or the label of the only point if there is no group. -/
def pointValue (primary : Option String) (b : Option Bucket) (totalLabel : String) (row : Row) :
    GroupValue :=
  match primary with
  | some label => groupValue (row.get? label) b
  | none => .ofText totalLabel

/-- Both sides of the chart, and for each row its point's key and its series. -/
structure Placement where
  points : Axis
  series : Axis
  rows : List (String × Nat)

def placeRows (point : Row → GroupValue) (secondary : List String) :
    List Row → Axis → Axis → Placement
  | [], points, series => ⟨points, series, []⟩
  | row :: rest, points, series =>
    let value := point row
    let (_, points) := points.insert value
    let (s, series) := series.insert (combined row secondary)
    let placed := placeRows point secondary rest points series
    { placed with rows := (value.key, s) :: placed.rows }

/-- Adds the value columns of a row, counted from `value`. -/
def tallyRow (series point : Nat) (row : Row) : Nat → List String → Tallies → Tallies
  | _, [], tallies => tallies
  | value, label :: labels, tallies =>
    let key := (value, series, point)
    let tally := (tallies.getD key {}).add (number? (row.get? label))
    tallyRow series point row (value + 1) labels (tallies.insert key tally)

def tallyRows (points : Axis) (valueLabels : List String) :
    List (Row × String × Nat) → Tallies → Tallies
  | [], tallies => tallies
  | (row, key, series) :: rest, tallies =>
    tallyRows points valueLabels rest (match points.position? key with
      | some point => tallyRow series point row 0 valueLabels tallies
      | none => tallies)

/-- A point's part of a dataset: nothing is known without a total, and nothing has no share. -/
def shareText (x : Float) (total : Option Float) : String :=
  match total with
  | none => missing
  | some t => if t == 0 then percentText (some 0) else percentText (percentOf (some x) total)

def pointText (x : Float) (total : Option Float) : DisplayMode → String
  | .number => numberText (some x)
  | .percentage => shareText x total
  | .numberPercentage => numberText (some x) ++ " (" ++ shareText x total ++ ")"

/-- A point without numbers is zero, but does not count for the total. -/
def dataset (label : String) (tallies : List Tally) (mode : DisplayMode) : Dataset :=
  let data := tallies.map fun t => if t.observed then t.sum else 0
  let total := total ((tallies.filter (·.observed)).map (·.sum))
  ⟨label, data, data.map (pointText · total mode), total⟩

def datasetLabel (valueLabel : String) (fansOut : Bool) (s : GroupValue) : String :=
  if fansOut then valueLabel ++ " – " ++ s.display else valueLabel

def datasets (valueLabels : List String) (fansOut : Bool) (series : List GroupValue)
    (pointCount : Nat) (tallies : Tallies) (mode : DisplayMode) : List Dataset :=
  valueLabels.zipIdx.flatMap fun (valueLabel, v) =>
    series.zipIdx.map fun (s, i) =>
      dataset (datasetLabel valueLabel fansOut s)
        ((List.range pointCount).map fun point => tallies.getD (v, i, point) {}) mode

/-- The starts of the buckets of a bounded window, as points. -/
def bucketValues (b : Bucket) (starts : List Timestamp) : List GroupValue :=
  starts.map fun t => ⟨t.sortKey, b.display t⟩

/-- The points that a chart has before it has rows; nothing if the window leaves the calendar. -/
def gridPoints? (axis : Option Bucket) (w : Timeframe) (maxPoints : Nat) :
    Option (List GroupValue) :=
  match axis, w.bounds? with
  | some b, some (start, stop) => (b.range? start stop maxPoints).map (bucketValues b)
  | _, _ => some []

def seriesOf (r : Result) (o : Options) (grid : List GroupValue) : Series :=
  let totalLabel := o.totalLabel.getD defaultTotalLabel
  let axis := r.timeAxis?.map (·.2)
  let secondary := r.groupLabels.drop 1
  let fansOut := !secondary.isEmpty
  let series : Axis := if fansOut then {} else (Axis.insert {} (combined .empty secondary)).2
  let placed := placeRows (pointValue r.groupLabels.head? axis totalLabel) secondary r.rows
    (Axis.insertAll {} grid) series
  let points := if axis.isSome then placed.points.sortByKey else placed.points
  let tallies := tallyRows points r.valueLabels (r.rows.zip placed.rows) ∅
  let datasets := datasets r.valueLabels fansOut placed.series.values.toList points.values.size
    tallies (o.display.getD .number)
  let grandTotal := total (datasets.filterMap (·.total))
  { chartType := r.chartType
    labels := points.values.toList.map (·.display)
    keys := points.values.toList.map (·.key)
    datasets
    totals := .ofList (datasets.map fun d => (d.label, d.total))
    percentages := .ofList (datasets.map fun d => (d.label, percentOf d.total grandTotal))
    grandTotal
    totalLabel }

/-- Nothing if the points of the window leave the calendar. -/
def formatSeries? (r : Result) (o : Options) (w : Timeframe) (maxPoints : Nat) : Option Series :=
  (gridPoints? (r.timeAxis?.map (·.2)) w maxPoints).map (seriesOf r o)

end IncidentBoard.Payload
