import IncidentBoard.Payload.Series

/-! Tables with totals of their value columns and the share that each cell has in them. -/
namespace IncidentBoard.Payload

open Store Widget

structure TableCell where
  value : Option Float
  display : String
  share : Option Float
  percentage : String

structure TableRow where
  groups : Keyed String
  values : Keyed TableCell

structure Table where
  chartType : ChartType
  groupColumns : List String
  valueColumns : List String
  rows : List TableRow
  totals : Keyed (Option Float)
  totalDisplay : Keyed String
  totalLabel : String

/-- The keys of all rows, in the order in which they first appear. -/
def seenKeys (rows : List Row) : List String :=
  (rows.flatMap Keyed.keys).foldl (fun seen key =>
    if seen.contains key then seen else seen ++ [key]) []

/-- Whether a column holds values: a number somewhere, and nothing but numbers and nulls. `seen`
says that a number was there before these rows. -/
def holdsValues (key : String) : List Row → Bool → Bool
  | [], seen => seen
  | row :: rest, seen =>
    match row.get? key with
    | none => holdsValues key rest seen
    | some cell =>
      if cell.isNull then holdsValues key rest seen
      else if cell.number?.isSome then holdsValues key rest true
      else false

/-- Group and value columns as declared; where none are, what the rows hold decides. -/
def columnsOf (r : Result) : List String × List String :=
  if !r.groupLabels.isEmpty || !r.valueLabels.isEmpty then (r.groupLabels, r.valueLabels)
  else
    let (values, groups) := (seenKeys r.rows).partition (holdsValues · r.rows false)
    (groups, values)

/-- A column without numbers has no total, and a total of zero no shares but zero. -/
def tableCell (value total : Option Float) : TableCell :=
  let (share, percentage) : Option Float × String :=
    match value, total with
    | _, none => (none, missing)
    | some v, some t =>
      if t == 0 then (some 0, percentText (some 0))
      else
        let share := percentOf (some v) (some t)
        (share, percentText share)
    | none, some _ => (none, missing)
  ⟨value, numberText value, share, percentage⟩

def columnTotal (rows : List Row) (column : String) : Option Float :=
  total (rows.filterMap fun row => number? (row.get? column))

/-- The bucket of a column, if it is the time axis. -/
def bucketOf (r : Result) (column : String) : Option Bucket := do
  let (label, b) ← r.timeAxis?
  if label = column then some b else none

def tableRow (r : Result) (groupColumns valueColumns : List String) (totals : Keyed (Option Float))
    (row : Row) : TableRow where
  groups := .ofList (groupColumns.map fun c =>
    (c, (groupValue (row.get? c) (bucketOf r c)).display))
  values := .ofList (valueColumns.map fun c =>
    (c, tableCell (number? (row.get? c)) ((totals.get? c).join)))

def tableOf (r : Result) (o : Options) : Table :=
  let (groupColumns, valueColumns) := columnsOf r
  let totals : Keyed (Option Float) := .ofList (valueColumns.map fun c => (c, columnTotal r.rows c))
  { chartType := r.chartType
    groupColumns
    valueColumns
    rows := r.rows.map (tableRow r groupColumns valueColumns totals)
    totals
    totalDisplay := .ofList (totals.entries.map fun (c, t) => (c, numberText t))
    totalLabel := o.totalLabel.getD defaultTotalLabel }

end IncidentBoard.Payload
