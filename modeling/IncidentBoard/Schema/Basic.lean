import IncidentBoard.Sql.Expr
import IncidentBoard.Widget.Error

/-! Tables, their columns, and the joins that reach them. -/
namespace IncidentBoard

/-- A registered column. -/
structure Column where
  table : String
  name : String
  kind : ColumnKind
  deriving DecidableEq, Repr

namespace Column

open Sql

/-- `table.column` -/
def path (c : Column) : String := c.table ++ "." ++ c.name

def defaultAlias (c : Column) : String := c.table ++ "_" ++ c.name

def expr (c : Column) : Expr := .qualified c.table c.name

/-- The column as it compares with bound values. -/
def comparable (c : Column) : Expr :=
  match c.kind with
  | .timestamp => .timestamp c.expr
  | _ => c.expr

end Column

namespace Schema

open Sql

/-- `LEFT JOIN table ON leftTable.leftColumn = table.column`. -/
structure JoinStep where
  table : String
  leftTable : String
  leftColumn : String
  column : String
  deriving DecidableEq, Repr

def JoinStep.on (j : JoinStep) : Expr :=
  .eq (.qualified j.leftTable j.leftColumn) (.qualified j.table j.column)

/-- `path` leads from the base table to this one. -/
structure Table where
  name : String
  columns : List (String × ColumnKind)
  path : List JoinStep
  deriving DecidableEq, Repr

def Table.column? (t : Table) (name : String) : Option Column :=
  (t.columns.lookup name).map fun kind => ⟨t.name, name, kind⟩

end Schema

end IncidentBoard
