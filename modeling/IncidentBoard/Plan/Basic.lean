import IncidentBoard.Schema.Basic
import IncidentBoard.Sql.Printer

/-! Compiled widgets: the columns, joins, conditions and bound values of a query. -/
namespace IncidentBoard

/-- A value bound to a parameter. -/
inductive SqlValue
  | int (n : Int)
  | text (s : String)
  | timestamp (t : Timestamp)
  deriving DecidableEq

/-- The value as a person reads it. -/
def SqlValue.display : SqlValue → String
  | .int n => toString n
  | .text s => Text.quoted s
  | .timestamp t => t.sortKey

def SqlValue.toJson : SqlValue → Json
  | .int n => .int n
  | .text s => .str s
  | .timestamp t => .str t.exactText

namespace Plan

open Sql Widget Schema

/-- Bound values; parameter `i` reads the `i`-th, counted from 1. -/
structure Params where
  values : List SqlValue := []
  deriving DecidableEq

namespace Params

/-- Binds one more value, and the parameter that reads it. -/
def bind (p : Params) (v : SqlValue) : Expr × Params :=
  (.param (p.values.length + 1), ⟨p.values ++ [v]⟩)

def bindAll (p : Params) : List SqlValue → List Expr × Params
  | [] => ([], p)
  | v :: vs =>
    let (e, p) := p.bind v
    let (es, p) := p.bindAll vs
    (e :: es, p)

end Params

inductive Role
  | group | value
  deriving DecidableEq, Repr

/-- An output column. Aggregates have no kind. -/
structure Select where
  expr : Expr
  label : String
  role : Role
  kind : Option ColumnKind

/-- `predicates` hold all together; `timeLabel` is the alias of the bucketed time column, which is
then the first output. -/
structure QueryPlan where
  selects : List Select
  groupBy : List Expr
  joins : List JoinStep
  predicates : List Expr
  params : Params
  orderBy : List (SortKey Expr)
  limit : Option Nat
  chartType : ChartType
  timeBucket : Option Bucket
  timeLabel : Option String

def labels (role : Role) (selects : List Select) : List String :=
  (selects.filter (·.role == role)).map (·.label)

namespace QueryPlan

def selectLabels (p : QueryPlan) : List String := p.selects.map (·.label)

def groupLabels (p : QueryPlan) : List String := labels .group p.selects

def valueLabels (p : QueryPlan) : List String := labels .value p.selects

/-- One more predicate, which may bind values after those of the plan. -/
def addPredicate (p : QueryPlan) (build : Params → Expr × Params) : QueryPlan :=
  let (e, params) := build p.params
  { p with predicates := p.predicates ++ [e], params }

end QueryPlan

def Select.item (s : Select) : Item Expr := ⟨s.expr, some s.label⟩

def joinOf (j : JoinStep) : Join Expr := ⟨j.table, j.on⟩

/-- `a AND b AND c`, or nothing. -/
def conjunction : List Expr → Option Expr
  | [] => none
  | e :: es => some (es.foldl Expr.and e)

def QueryPlan.toQuery (base : String) (p : QueryPlan) : Query where
  select := p.selects.map Select.item
  source := some base
  joins := p.joins.map joinOf
  filter := conjunction p.predicates
  groupBy := p.groupBy
  orderBy := p.orderBy
  limit := p.limit

end Plan

end IncidentBoard
