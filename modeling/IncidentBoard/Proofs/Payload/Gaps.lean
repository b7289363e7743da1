import IncidentBoard.Proofs.Calendar.Flooring
import IncidentBoard.Proofs.Payload.Series
import IncidentBoard.Proofs.Text.ByteOrder
import Mathlib.Data.List.Perm.Subperm

/-! Charts over time have a point for each bucket of their window. -/
namespace IncidentBoard.Payload

open Store Widget Text

section Axis

variable {r : Result} {o : Options} {grid : List GroupValue} {label : String} {b : Bucket}

/-- On an axis of time a row falls on the value of its first group. -/
theorem rowPoint_of_timeAxis (h : r.timeAxis? = some (label, b)) (row : Row) :
    rowPoint r o row = groupValue (row.get? label) (some b) := by
  have hhead : r.groupLabels.head? = some label := by
    obtain ⟨label', -, h⟩ := Option.bind_eq_some_iff.1 h
    obtain ⟨b', -, h⟩ := Option.bind_eq_some_iff.1 h
    split at h
    · next hhead =>
      cases h
      exact hhead
    · cases h
  rw [rowPoint, h, hhead]
  rfl

/-- Points in time stand in the order of their keys. -/
theorem lt_keys_pointAxis (h : r.timeAxis?.isSome) :
    (pointAxis r o grid).keys.Pairwise (· < ·) := by
  rw [pointAxis, Option.isSome_map, if_pos h]
  exact (Axis.consistent_empty.insertAll _).lt_keys_sortByKey

end Axis

/-- The points of a chart over time, by the bucket starts of its window. -/
structure Series.Fills (r : Result) (label : String) (b : Bucket) (start stop : Timestamp)
    (maxPoints : Nat) (starts : List Timestamp) (s : Series) : Prop where
  nodup : s.keys.Nodup
  ascending : s.keys.Pairwise fun k k' => bytes k < bytes k'
  mem_keys : ∀ k, k ∈ s.keys ↔
    k ∈ starts.map (·.sortKey) ∨ ∃ row ∈ r.rows, (groupValue (row.get? label) (some b)).key = k
  length_le : s.keys.length ≤ maxPoints + r.rows.length
  /-- Where no row falls there is nothing to add up. -/
  zero : ∀ (i : Nat) k, s.keys[i]? = some k →
    (∀ row ∈ r.rows, (groupValue (row.get? label) (some b)).key ≠ k) →
    ∀ d ∈ s.datasets, d.data[i]? = some 0
  /-- Rows that were grouped by buckets of the window bring no point of their own. -/
  exact_keys : starts ≠ [] →
    (∀ row ∈ r.rows, ∃ t f, row.get? label = some (.timestamp f) ∧ b.floor? t = some f ∧
      start ≤ t ∧ t ≤ stop) → ∀ k, k ∈ s.keys ↔ k ∈ starts.map (·.sortKey)

/-- A point that no row falls on is zero in every dataset. -/
theorem zero_of_no_row {r : Result} {o : Options} {grid : List GroupValue} {i : Nat} {k : String}
    {d : Dataset} (hk : (seriesOf r o grid).keys[i]? = some k)
    (hrows : ∀ row ∈ r.rows, (rowPoint r o row).key ≠ k) (hd : d ∈ (seriesOf r o grid).datasets) :
    d.data[i]? = some 0 := by
  obtain ⟨j, hj⟩ := List.mem_iff_getElem?.1 hd
  obtain ⟨⟨label, series⟩, -, hholds⟩ := exists_getElem?_of_forall₂ datasets_seriesOf.flip hj
  have hempty : rowsAt r o k series = [] :=
    List.filter_eq_nil_iff.2 fun row hrow hkey => hrows row hrow (of_decide_eq_true hkey).1
  rw [hholds.data, List.getElem?_map, hk, Option.map_some, numbersAt, hempty]
  rfl

section Chart

variable {r : Result} {w : Timeframe} {maxPoints : Nat} {label : String} {b : Bucket}
  {start stop : Timestamp}
  {starts : List Timestamp}

theorem mem_keys_chart (o : Options) (starts : List Timestamp)
    (haxis : r.timeAxis? = some (label, b)) (k : String) :
    k ∈ (pointAxis r o (bucketValues b starts)).keys ↔
      k ∈ starts.map (·.sortKey) ∨
        ∃ row ∈ r.rows, (groupValue (row.get? label) (some b)).key = k := by
  rw [mem_keys_pointAxis]
  simp only [rowPoint_of_timeAxis haxis, bucketValues, List.map_map, Function.comp_def]

theorem formatSeries?_of_starts (o : Options) (haxis : r.timeAxis? = some (label, b))
    (hw : w.bounds? = some (start, stop)) (hstarts : b.range? start stop maxPoints = some starts) :
    formatSeries? r o w maxPoints = some (seriesOf r o (bucketValues b starts)) := by
  have hgrid : gridPoints? (r.timeAxis?.map (·.2)) w maxPoints = some (bucketValues b starts) := by
    simp only [gridPoints?, haxis, hw, Option.map_some, hstarts]
  exact congrArg (Option.map _) hgrid

/-- A chart over time has a point for each bucket of its window, and none more than its rows
bring. -/
theorem fills_of_formatSeries (r : Result) (o : Options) (w : Timeframe) (maxPoints : Nat)
    (haxis : r.timeAxis? = some (label, b)) (hw : w.bounds? = some (start, stop))
    (hstarts : b.range? start stop maxPoints = some starts) :
    ∃ s, formatSeries? r o w maxPoints = some s ∧
      s.Fills r label b start stop maxPoints starts := by
  refine ⟨seriesOf r o (bucketValues b starts), formatSeries?_of_starts o haxis hw hstarts, ?_⟩
  obtain ⟨-, hkeys, -, -⟩ := seriesOf_eq r o (bucketValues b starts)
  have hnodup := (consistent_pointAxis r o (bucketValues b starts)).nodup
  have hmem := mem_keys_chart o starts haxis
  constructor
  case nodup => exact hkeys ▸ hnodup
  case ascending =>
    rw [hkeys]
    exact (lt_keys_pointAxis (Option.isSome_of_eq_some haxis)).imp bytes_lt_bytes
  case mem_keys =>
    rw [hkeys]
    exact hmem
  case length_le =>
    have hsubset : (pointAxis r o (bucketValues b starts)).keys ⊆
        starts.map (·.sortKey) ++ r.rows.map fun row =>
          (groupValue (row.get? label) (some b)).key := by
      intro k hk
      rw [List.mem_append, List.mem_map (l := r.rows)]
      exact (hmem k).1 hk
    have hle := (List.subperm_of_subset hnodup hsubset).length_le
    have hstartsLe := Bucket.length_le_of_range? hstarts
    rw [List.length_append, List.length_map, List.length_map] at hle
    rw [hkeys]
    omega
  case zero =>
    intro i k hk hrows d hd
    refine zero_of_no_row hk (fun row hrow => ?_) hd
    rw [rowPoint_of_timeAxis haxis]
    exact hrows row hrow
  case exact_keys =>
    intro hne hrows k
    rw [hkeys, hmem, or_iff_left_of_imp]
    -- The bucket of a row is one of the window's, so that its key stands on the axis already.
    rintro ⟨row, hrow, rfl⟩
    obtain ⟨t, f, hcell, hfloor, hstart, hstop⟩ := hrows row hrow
    rw [hcell]
    exact List.mem_map_of_mem (Bucket.mem_of_range? hstarts hne hstart hstop hfloor)

theorem fills_of_formatSeries_daily : ∃ s, formatSeries? daily {} threeDays 10 = some s ∧
    ∀ k, k ∈ s.keys ↔ k ∈ [sixth.midnight, seventh.midnight, eighth.midnight].map (·.sortKey) := by
  have hstarts : Bucket.day.range? sixth.midnight eighth.midnight 10 =
      some [sixth.midnight, seventh.midnight, eighth.midnight] := by decide
  obtain ⟨s, hs, hfills⟩ := fills_of_formatSeries daily {} threeDays 10 rfl rfl hstarts
  refine ⟨s, hs, hfills.exact_keys (by decide) fun row hrow => ?_⟩
  have hcell : row.get? "day" = some (.timestamp seventh.midnight) := by
    rcases List.mem_cons.1 hrow with rfl | hrow
    · rfl
    · rw [List.mem_singleton.1 hrow]
      rfl
  exact ⟨seventh.midnight, seventh.midnight, hcell, rfl, by decide, by decide⟩

end Chart

end IncidentBoard.Payload
