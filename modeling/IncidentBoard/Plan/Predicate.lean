import IncidentBoard.Plan.Coercion

/-! Filters as conditions on rows. -/
namespace IncidentBoard.Plan

open Sql Widget

/-- The condition of a filter on a column; its values are bound after those in `params`. -/
def predicate (c : Column) (op : Operator) (value : Json) (params : Params) :
    Except ValueFault (Expr × Params) :=
  match op, value with
  | .eq, .null => .ok (.isNull c.expr false, params)
  | .neq, .null => .ok (.isNull c.expr true, params)
  | .isIn, .arr items => do
    let (bound, params) := params.bindAll (← coerceAll c.kind items)
    return (.inList c.comparable bound false, params)
  | .notIn, .arr items => do
    let (bound, params) := params.bindAll (← coerceAll c.kind items)
    return (.inList c.comparable bound true, params)
  | .isIn, _ | .notIn, _ => .error .notList
  | .between, .arr [low, high] => do
    let low ← coerce c.kind low
    let high ← coerce c.kind high
    let (low, params) := params.bind low
    let (high, params) := params.bind high
    return (.between c.comparable low high false, params)
  | .between, _ => .error .notPair
  | .contains, value =>
    if c.kind = .text then
      match value with
      | .str needle =>
        let (pattern, params) := params.bind (.text (containsPattern needle))
        .ok (.like c.comparable pattern '\\' true, params)
      | _ => .error .notText
    else .error .notTextColumn
  | .eq, value => compareWith .eq value
  | .neq, value => compareWith .ne value
  | .gt, value => compareWith .gt value
  | .gte, value => compareWith .ge value
  | .lt, value => compareWith .lt value
  | .lte, value => compareWith .le value
where
  compareWith (op : BinOp) (value : Json) : Except ValueFault (Expr × Params) := do
    let (bound, params) := params.bind (← coerce c.kind value)
    return (.binary op c.comparable bound, params)

/-- The bounds of a window on the time column. -/
def windowPredicates (time : Column) (w : Timeframe) (params : Params) : List Expr × Params :=
  let (first, params) := bound .ge w.start params
  let (second, params) := bound .le w.stop params
  (first ++ second, params)
where
  bound (op : BinOp) (t : Option Timestamp) (params : Params) : List Expr × Params :=
    match t with
    | none => ([], params)
    | some t =>
      let (e, params) := params.bind (.timestamp t)
      ([.binary op time.comparable e], params)

/-- The aggregate of a column over all rows, or over those that meet a condition. Only the share of
rows needs one; it is zero when there is nothing to take a share of. -/
def aggregate? (a : Aggregation) (column : Expr) : Option Expr → Option Expr
  | none =>
    match a with
    | .count => some (.apply "COUNT" [column])
    | .sum => some (.apply "SUM" [column])
    | .avg => some (.apply "AVG" [column])
    | .min => some (.apply "MIN" [column])
    | .max => some (.apply "MAX" [column])
    | .ratio => none
  | some condition =>
    match a with
    | .count => some (.apply "SUM" [.ifThen condition (.int 1) (.int 0)])
    | .sum => some (.apply "SUM" [.ifThen condition column (.int 0)])
    | .avg => some (.apply "AVG" [.ifThen condition column .null])
    | .min => some (.apply "MIN" [.ifThen condition column .null])
    | .max => some (.apply "MAX" [.ifThen condition column .null])
    | .ratio =>
      let hits := Expr.apply "SUM" [.ifThen condition (.int 1) (.int 0)]
      let total := Expr.apply "NULLIF" [.apply "COUNT" [column], .int 0]
      some (.apply "COALESCE"
        [.binary .divide (.binary .times (.literal (.float 100.0)) hits) total, .int 0])

end IncidentBoard.Plan
