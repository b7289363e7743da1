import IncidentBoard.Payload.Coerce
import IncidentBoard.Store.Basic

/-! A chart of a single number. -/
namespace IncidentBoard.Payload

open Store Widget

structure Scalar where
  chartType : ChartType
  label : String
  value : String
  raw : Option Float

/-- The number of the first row: the share of one column in another, if both are named, or else the
first value column. -/
def scalarOf (r : Result) (o : Options) : Scalar :=
  let cell (label : String) : Option Float := number? (r.rows.head?.bind (·.get? label))
  let (label, raw, asPercent) : String × Option Float × Bool :=
    match o.percentageNumerator, o.percentageDenominator with
    | some numerator, some denominator =>
      (numerator, percentOf (cell numerator) (cell denominator), true)
    | _, _ =>
      let label := (r.valueLabels.head?.or r.selectLabels.head?).getD ""
      (label, cell label, r.chartType = .percentage || o.display = some .percentage)
  { chartType := r.chartType
    label := o.totalLabel.getD label
    value := if asPercent then percentText raw else numberText raw
    raw }

end IncidentBoard.Payload
