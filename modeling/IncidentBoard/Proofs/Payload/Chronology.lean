import IncidentBoard.Proofs.Calendar.Chronology
import IncidentBoard.Proofs.Payload.Gaps

/-! Sort keys and the points of charts over time go with time, as far as years are written in their
order. -/
namespace IncidentBoard

open Calendar Text Store Widget

namespace Timestamp

variable {s t : Timestamp} {before : Prop}

/-- An order that compares the years of two moments as they are written, and goes with time within a
year. -/
structure YearsFirst (s t : Timestamp) (before : Prop) : Prop where
  before_iff : before ↔ YearBefore s.date.year t.date.year ∨ s.date.year = t.date.year ∧ s < t
  agrees_iff : (s < t ↔ before) ↔ (s.date.year < t.date.year ↔ YearBefore s.date.year t.date.year)
  fourDigits : 0 ≤ s.date.year ∧ s.date.year ≤ 9999 → 0 ≤ t.date.year ∧ t.date.year ≤ 9999 →
    (s < t ↔ before)

theorem yearsFirst_of_iff
    (h : before ↔ YearBefore s.date.year t.date.year ∨ s.date.year = t.date.year ∧ s < t) :
    s.YearsFirst t before := by
  have hagrees : (s < t ↔ before) ↔
      (s.date.year < t.date.year ↔ YearBefore s.date.year t.date.year) := by
    rw [h, lt_iff_year]
    by_cases hyear : s.date.year = t.date.year
    · simp [hyear, not_yearBefore_self]
    · simp [hyear]
  exact ⟨h, hagrees, fun hs ht => hagrees.2 (yearBefore_of_four hs ht).symm⟩

end Timestamp

namespace Payload

section Chart

variable {r : Result} {o : Options} {w : Timeframe} {maxPoints : Nat} {chart : Series}
  {k l : String}

/-- The point with the key `k` stands before the one with the key `l`. -/
def Series.Precedes (chart : Series) (k l : String) : Prop :=
  ∃ i j : Nat, i < j ∧ chart.keys[i]? = some k ∧ chart.keys[j]? = some l

theorem precedes_iff (hsorted : chart.keys.Pairwise (· < ·)) (hk : k ∈ chart.keys)
    (hl : l ∈ chart.keys) :
    chart.Precedes k l ↔ k < l := by
  have hlt {i j : Nat} {k l : String} (hij : i < j) (hi : chart.keys[i]? = some k)
    (hj : chart.keys[j]? = some l) :
      k < l := by
    obtain ⟨hi', rfl⟩ := List.getElem?_eq_some_iff.1 hi
    obtain ⟨hj', rfl⟩ := List.getElem?_eq_some_iff.1 hj
    exact List.pairwise_iff_getElem.1 hsorted i j hi' hj' hij
  constructor
  · rintro ⟨i, j, hij, hi, hj⟩
    exact hlt hij hi hj
  · intro hkl
    obtain ⟨i, hi⟩ := List.mem_iff_getElem?.1 hk
    obtain ⟨j, hj⟩ := List.mem_iff_getElem?.1 hl
    refine ⟨i, j, ?_, hi, hj⟩
    rcases Nat.lt_trichotomy i j with hij | rfl | hji
    · exact hij
    · rw [hi, Option.some.injEq] at hj
      exact absurd (hj ▸ hkl) Std.lt_irrefl
    · exact absurd (hlt hji hj hi) (String.lt_asymm hkl)

theorem lt_keys_of_formatSeries? (hchart : formatSeries? r o w maxPoints = some chart)
    (haxis : r.timeAxis?.isSome) :
    chart.keys.Pairwise (· < ·) := by
  obtain ⟨grid, -, rfl⟩ := Option.map_eq_some_iff.1 hchart
  obtain ⟨-, hkeys, -, -⟩ := seriesOf_eq r o grid
  rw [hkeys]
  exact lt_keys_pointAxis haxis

/-- The keys of whole seconds, and the points of charts over time with these keys, are ordered by
their years as they are written, and by time within a year; so they are in the order of time in the
years 0 to 9999. -/
theorem order_of_keys {s t : Timestamp} (hs : s.fraction = 0) (ht : t.fraction = 0) :
    s.YearsFirst t (bytes s.sortKey < bytes t.sortKey) ∧
      ∀ (r : Result) (o : Options) (w : Timeframe) (maxPoints : Nat) (chart : Series),
        formatSeries? r o w maxPoints = some chart → r.timeAxis?.isSome →
        s.sortKey ∈ chart.keys → t.sortKey ∈ chart.keys →
          s.YearsFirst t (chart.Precedes s.sortKey t.sortKey) := by
  have hkeys := Timestamp.sortKey_lt_iff hs ht
  constructor
  · exact Timestamp.yearsFirst_of_iff (bytes_lt_bytes_iff.trans hkeys)
  · intro r o w maxPoints chart hchart haxis hsmem htmem
    have hsorted := lt_keys_of_formatSeries? hchart haxis
    exact Timestamp.yearsFirst_of_iff ((precedes_iff hsorted hsmem htmem).trans hkeys)

/-- A chart over time has the points of its window. -/
theorem exists_chart {label : String} {b : Bucket} {start stop : Timestamp}
    {starts : List Timestamp} (haxis : r.timeAxis? = some (label, b))
    (hw : w.bounds? = some (start, stop)) (hstarts : b.range? start stop maxPoints = some starts) :
    ∃ chart, formatSeries? r o w maxPoints = some chart ∧ ∀ t ∈ starts, t.sortKey ∈ chart.keys := by
  obtain ⟨-, hkeys, -, -⟩ := seriesOf_eq r o (bucketValues b starts)
  refine ⟨seriesOf r o (bucketValues b starts),
    formatSeries?_of_starts o haxis hw hstarts, fun t ht => ?_⟩
  rw [hkeys, mem_keys_chart o starts haxis]
  exact .inl (List.mem_map_of_mem ht)

theorem order_of_keys_daily : ∃ chart, formatSeries? daily {} threeDays 10 = some chart ∧
    bytes sixth.midnight.sortKey < bytes seventh.midnight.sortKey ∧
    chart.Precedes sixth.midnight.sortKey seventh.midnight.sortKey := by
  have hstarts : Bucket.day.range? sixth.midnight eighth.midnight 10 =
      some [sixth.midnight, seventh.midnight, eighth.midnight] := by decide
  obtain ⟨chart, hchart, hmem⟩ :=
    exists_chart (r := daily) (o := {}) rfl (w := threeDays) rfl hstarts
  have hlt : sixth.midnight < seventh.midnight := by decide
  obtain ⟨hbytes, hcharts⟩ := order_of_keys (s := sixth.midnight) (t := seventh.midnight) rfl rfl
  have hpoints :=
    hcharts daily {} threeDays 10 chart hchart rfl (hmem _ (by simp)) (hmem _ (by simp))
  exact ⟨chart, hchart, (hbytes.fourDigits (by decide) (by decide)).1 hlt,
    (hpoints.fourDigits (by decide) (by decide)).1 hlt⟩

/-- 1 January 9999. -/
def lastPlainYear : Date := ⟨3651694, by decide, by decide⟩

/-- 1 January 10000. -/
def firstSignedYear : Date := ⟨3652059, by decide, by decide⟩

/-- Incidents by year, of which there are none. -/
def yearly : Result where
  chartType := .timechart
  rows := []
  groupLabels := ["year"]
  valueLabels := ["n"]
  selectLabels := ["year", "n"]
  timeLabel := some "year"
  timeBucket := some .year

/-- The year 10000 stands before the year 9999, since `+` stands before all digits. -/
theorem exists_misordered_years : ∃ s t chart, s.fraction = 0 ∧ t.fraction = 0 ∧ s < t ∧
    ¬bytes s.sortKey < bytes t.sortKey ∧ formatSeries? yearly {} ⟨some s, some t⟩ 10 = some chart ∧
    chart.Precedes t.sortKey s.sortKey := by
  have hstarts : Bucket.year.range? lastPlainYear.midnight firstSignedYear.midnight 10 =
      some [lastPlainYear.midnight, firstSignedYear.midnight] := by decide
  obtain ⟨chart, hchart, hmem⟩ := exists_chart (r := yearly) (o := {}) rfl
    (w := ⟨some lastPlainYear.midnight, some firstSignedYear.midnight⟩) rfl hstarts
  have hkeys : firstSignedYear.midnight.sortKey < lastPlainYear.midnight.sortKey :=
    (Timestamp.sortKey_lt_iff rfl rfl).2 (.inl (by decide))
  refine ⟨lastPlainYear.midnight, firstSignedYear.midnight, chart, rfl,
    rfl, by decide, ?_, hchart, ?_⟩
  · rw [bytes_lt_bytes_iff]
    exact String.lt_asymm hkeys
  · exact (precedes_iff (lt_keys_of_formatSeries? hchart rfl) (hmem _ (by simp))
      (hmem _ (by simp))).2 hkeys

end Chart

end Payload

end IncidentBoard
