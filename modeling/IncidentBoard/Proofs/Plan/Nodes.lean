import IncidentBoard.Proofs.Plan.Shape

/-! The expressions that outputs, joins and conditions of a compiled plan consist of. -/
namespace IncidentBoard.Plan

open Sql Widget Schema

inductive Node : Expr → Prop
  | column {table name : String} (h : (table, name) ∈ storedColumns) : Node (.qualified table name)
  | param (index : Nat) : Node (.param index)
  | compare {op : BinOp} (h : op.compares) (a b : Expr) : Node (.binary op a b)
  | list (e : Expr) (values : List Expr) (negated : Bool) : Node (.inList e values negated)
  | range (e low high : Expr) : Node (.between e low high false)
  | null (e : Expr) (negated : Bool) : Node (.isNull e negated)
  | text (e pattern : Expr) : Node (.like e pattern '\\' true)
  | aggregate {e : Expr} (h : AggregateNode e) : Node e
  | bucket (e : Expr) (b : Bucket) : Node (.bucket e b)
  | timestamp (e : Expr) : Node (.timestamp e)

theorem node_of_mem_columns {c : Column} (h : c ∈ columns) : Node c.expr :=
  .column (List.mem_append_left _ (List.mem_map.2 ⟨c, h, rfl⟩))

theorem all_node_comparable {c : Column} (h : c ∈ columns) : c.comparable.All Node := by
  have hcolumn : c.expr.All Node := Column.all_expr.2 (node_of_mem_columns h)
  unfold Column.comparable
  split
  · exact Expr.all_timestamp.2 ⟨.timestamp _, hcolumn⟩
  · exact hcolumn

theorem IsCondition.all_node {e : Expr} (h : IsCondition e) : e.All Node := by
  obtain ⟨c, hc, p, p', h⟩ := h
  refine h.all ?_ (node_of_mem_columns hc) (all_node_comparable hc) .param
  cases h with
  | null negated => exact .null _ negated
  | compare hop v => exact .compare hop _ _
  | list vs negated => exact .list _ _ negated
  | range low high => exact .range _ _ _
  | text pattern => exact .text _ _

theorem Output.all_node {s : Select} (h : Output s) : s.expr.All Node := by
  cases h with
  | group hc => exact Column.all_expr.2 (node_of_mem_columns hc)
  | axis hc => exact Expr.all_bucket.2 ⟨.bucket _ _, Column.all_expr.2 (node_of_mem_columns hc)⟩
  | value hc hcond he =>
    exact all_of_aggregate he (fun n hn => .aggregate hn) (node_of_mem_columns hc)
      fun x hx => (hcond x hx).all_node

theorem mem_storedColumns_of_mem_joinSteps : ∀ j ∈ joinSteps,
    (j.leftTable, j.leftColumn) ∈ storedColumns ∧ (j.table, j.column) ∈ storedColumns := by
  decide

theorem all_node_on {j : JoinStep} (h : j ∈ joinSteps) : j.on.All Node := by
  obtain ⟨hleft, hright⟩ := mem_storedColumns_of_mem_joinSteps j h
  refine Expr.all_binary.2 ⟨.compare rfl _ _, ?_, ?_⟩
  · exact Expr.all_column.2 (.column hleft)
  · exact Expr.all_column.2 (.column hright)

end IncidentBoard.Plan
