import IncidentBoard.Access.Scope
import IncidentBoard.Keyed
import IncidentBoard.Store.Cell

/-! Stores that answer queries, and the results of plans. -/
namespace IncidentBoard

open Plan Widget

namespace Store

/-- An output column as its cells are to be read. -/
structure OutputColumn where
  label : String
  kind : Option ColumnKind
  deriving DecidableEq, Repr

/-- A query with its bound values. -/
structure Request where
  sql : String
  params : List SqlValue
  columns : List OutputColumn

/-- `undecodable` names the column of a cell that has no value; `rejected` carries the text of a
store that cannot run the query. -/
inductive StoreError
  | undecodable (column message : String)
  | rejected (message : String)
  deriving DecidableEq, Repr

def StoreError.message : StoreError → String
  | .undecodable column message => "Failed to decode column '" ++ column ++ "': " ++ message
  | .rejected message => "SQLite error: " ++ message

abbrev Row := Keyed Cell

/-- The cells of a row, one for each column; a missing cell is null. -/
def decodeCells : List OutputColumn → List RawCell → Except StoreError (List (String × Cell))
  | [], _ => .ok []
  | c :: cs, raw =>
    match (raw.head?.getD .null).decode c.kind with
    | .error fault => .error (.undecodable c.label fault.message)
    | .ok cell => do
      let cells ← decodeCells cs raw.tail
      return (c.label, cell) :: cells

def decodeRow (columns : List OutputColumn) (raw : List RawCell) : Except StoreError Row :=
  (decodeCells columns raw).map Keyed.ofList

def decodeRows (columns : List OutputColumn) : List (List RawCell) → Except StoreError (List Row)
  | [] => .ok []
  | raw :: rest => do
    let row ← decodeRow columns raw
    let rows ← decodeRows columns rest
    return row :: rows

end Store

/-- A store whose state is of type `σ`. -/
structure Store (σ : Type) where
  dialect : Sql.Dialect
  fetch : Store.Request → σ → Except Store.StoreError (List Store.Row) × σ

namespace Store

/-- What a scripted store answers to one fetch: raw rows, or an error. -/
abbrev Response := Except StoreError (List (List RawCell))

/-- Answers still to give, and the requests so far, the latest in front. -/
structure Script where
  responses : List Response
  requests : List Request := []

/-- A store that gives prepared answers, one for each fetch, and fails once they are used up. -/
def scripted (dialect : Sql.Dialect) (exhausted : StoreError) : Store Script where
  dialect
  fetch request script :=
    match script.responses with
    | [] => (.error exhausted, ⟨[], request :: script.requests⟩)
    | response :: rest =>
      (response.bind (decodeRows request.columns), ⟨rest, request :: script.requests⟩)

/-- The rows of a plan, with what it takes to make a chart of them. -/
structure Result where
  chartType : ChartType
  rows : List Row
  groupLabels : List String
  valueLabels : List String
  selectLabels : List String
  timeLabel : Option String
  timeBucket : Option Bucket

namespace Result

/-- The bucketed time column, if it is the first group. -/
def timeAxis? (r : Result) : Option (String × Bucket) := do
  let label ← r.timeLabel
  let b ← r.timeBucket
  if r.groupLabels.head? = some label then some (label, b) else none

def toJson (r : Result) : Json :=
  .ofMembers [
    ("chart_type", .str r.chartType.name),
    ("rows", .arr (r.rows.map (Json.ofKeyed Cell.toJson))),
    ("group_labels", .arr (r.groupLabels.map .str)),
    ("value_labels", .arr (r.valueLabels.map .str)),
    ("select_labels", .arr (r.selectLabels.map .str)),
    ("time_label", .ofOption .str r.timeLabel),
    ("time_bucket", .ofOption (.str ·.name) r.timeBucket)]

end Result

def outputColumn (s : Select) : OutputColumn := ⟨s.label, s.kind⟩

def requestOf (dialect : Sql.Dialect) (p : QueryPlan) : Request :=
  ⟨p.toSql dialect, p.params.values, p.selects.map outputColumn⟩

def resultOf (p : QueryPlan) (rows : List Row) : Result where
  chartType := p.chartType
  rows
  groupLabels := p.groupLabels
  valueLabels := p.valueLabels
  selectLabels := p.selectLabels
  timeLabel := p.timeLabel
  timeBucket := p.timeBucket

/-- Runs a plan. -/
def run {σ : Type} (store : Store σ) (p : QueryPlan) (s : σ) : Except StoreError Result × σ :=
  let (rows, s) := store.fetch (requestOf store.dialect p) s
  (rows.map (resultOf p), s)

end Store

end IncidentBoard
