import IncidentBoard.Proofs.Board.Isolation
import IncidentBoard.Proofs.Calendar.Ends

/-! The results that have no chart: those over a window whose points leave the calendar. -/
namespace IncidentBoard.Payload

open Store Widget

variable {r : Result} {o : Options} {w : Timeframe} {maxPoints : Nat}

theorem gridPoints?_eq_none_iff {axis : Option Bucket} :
    gridPoints? axis w maxPoints = none ↔
      ∃ b start stop, axis = some b ∧ w.bounds? = some (start, stop) ∧ start ≤ stop ∧
        Bucket.Leaves start stop maxPoints b := by
  cases axis with
  | none => simp [gridPoints?]
  | some b =>
    cases hw : w.bounds? with
    | none => simp [gridPoints?, hw]
    | some bounds =>
      obtain ⟨start, stop⟩ := bounds
      simp [gridPoints?, hw, Bucket.range?_eq_none_iff]

theorem format?_eq_none_iff_gridPoints? :
    format? r o w maxPoints = none ↔
      hasPoints r.chartType ∧ gridPoints? (r.timeAxis?.map (·.2)) w maxPoints = none := by
  unfold format? formatSeries?
  cases r.chartType <;> simp [hasPoints]

/-- Every result has a chart, unless its points stand over time and the walk over the buckets of its
window leaves the calendar. -/
theorem format?_eq_none_iff (r : Result) (o : Options) (w : Timeframe) (maxPoints : Nat) :
    format? r o w maxPoints = none ↔
      hasPoints r.chartType ∧ ∃ label b start stop, r.timeAxis? = some (label, b) ∧
        w.bounds? = some (start, stop) ∧ start ≤ stop ∧ Bucket.Leaves start stop maxPoints b := by
  rw [format?_eq_none_iff_gridPoints?, gridPoints?_eq_none_iff]
  refine and_congr_right fun _ => ⟨?_, ?_⟩
  · rintro ⟨b, start, stop, haxis, hw⟩
    obtain ⟨⟨label, b⟩, hlabel, rfl⟩ := Option.map_eq_some_iff.1 haxis
    exact ⟨label, b, start, stop, hlabel, hw⟩
  · rintro ⟨label, b, start, stop, haxis, hw⟩
    exact ⟨b, start, stop, by rw [haxis]; rfl, hw⟩

/-- The incidents of each day, of which there are none. -/
def noneDaily : Result where
  chartType := .timechart
  rows := []
  groupLabels := ["day"]
  valueLabels := ["n"]
  selectLabels := ["day", "n"]
  timeLabel := some "day"
  timeBucket := some .day

def lastMidnight : Timestamp := Timestamp.last.date.midnight

/-- A chart of the last day is one point, but the walk looks for a day after it. -/
theorem exists_no_chart_lastMidnight :
    ∃ r o w start stop maxPoints, w.bounds? = some (start, stop) ∧ start ≤ stop ∧
      format? r o w maxPoints = none :=
  ⟨noneDaily, {}, ⟨some lastMidnight, some lastMidnight⟩, lastMidnight, lastMidnight, 1,
    rfl, by decide, rfl⟩

end IncidentBoard.Payload
