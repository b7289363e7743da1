import IncidentBoard.Bucket

/-! SQL expressions and queries. User values have no place here but as parameters. -/
namespace IncidentBoard.Sql

inductive Literal
  | int (n : Int)
  | float (x : Float)
  | null

inductive BinOp
  | eq | ne | lt | gt | le | ge | and | or | plus | minus | times | divide | concat
  deriving DecidableEq, Repr

inductive Direction
  | asc | desc
  deriving DecidableEq, Repr

/-- An item of a `SELECT` list. -/
structure Item (Expr : Type) where
  expr : Expr
  label : Option String := none

/-- `LEFT JOIN table ON on`. -/
structure Join (Expr : Type) where
  table : String
  on : Expr

structure SortKey (Expr : Type) where
  expr : Expr
  direction : Option Direction

mutual

inductive Expr
  | column (table : Option String) (name : String)
  | literal (l : Literal)
  /-- Parameters are counted from 1. -/
  | param (index : Nat)
  | binary (op : BinOp) (left right : Expr)
  | not (e : Expr)
  | call (name : String) (distinct : Bool) (args : List Expr)
  | case (branches : List (Expr × Expr)) (otherwise : Option Expr)
  | inList (e : Expr) (values : List Expr) (negated : Bool)
  | inQuery (e : Expr) (query : Query) (negated : Bool)
  | between (e low high : Expr) (negated : Bool)
  | isNull (e : Expr) (negated : Bool)
  | like (e pattern : Expr) (escape : Char) (anyCase : Bool)
  | paren (e : Expr)
  /-- The start of the bucket that a timestamp lies in. -/
  | bucket (e : Expr) (b : Bucket)
  /-- A stored timestamp in a form that compares with a bound one. -/
  | timestamp (e : Expr)

structure Query where
  select : List (Item Expr)
  source : Option String
  joins : List (Join Expr)
  filter : Option Expr
  groupBy : List Expr
  orderBy : List (SortKey Expr)
  limit : Option Nat

end

instance : Inhabited Expr := ⟨.literal .null⟩

instance : Inhabited Query := ⟨⟨[], none, [], none, [], [], none⟩⟩

namespace Expr

/-- A column by its name alone, such as an output alias. -/
def col (name : String) : Expr := .column none name

def qualified (table name : String) : Expr := .column (some table) name

def int (n : Int) : Expr := .literal (.int n)

def null : Expr := .literal .null

def eq (a b : Expr) : Expr := .binary .eq a b

def and (a b : Expr) : Expr := .binary .and a b

def or (a b : Expr) : Expr := .binary .or a b

/-- False on every row. -/
def never : Expr := eq (int 1) (int 0)

def apply (name : String) (args : List Expr) : Expr := .call name false args

/-- `CASE WHEN condition THEN a ELSE b END`. -/
def ifThen (condition a b : Expr) : Expr := .case [(condition, a)] (some b)

end Expr

namespace Query

def empty : Query := ⟨[], none, [], none, [], [], none⟩

/-- One more condition that rows have to meet. -/
def addFilter (q : Query) (e : Expr) : Query :=
  { q with filter := some (match q.filter with
    | some f => f.and e
    | none => e) }

end Query

end IncidentBoard.Sql
