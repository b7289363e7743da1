import IncidentBoard.Proofs.Payload.History
import IncidentBoard.Proofs.Payload.Tallies
import Mathlib.Data.List.Forall2
import Mathlib.Data.List.ProdSigma

/-! The rows of a result in its chart: every number is in one place. -/
namespace IncidentBoard.Payload

open Store Widget

section Keys

variable (r : Result) (o : Options)

/-- The value of the point that a row falls on. -/
def rowPoint (row : Row) : GroupValue :=
  pointValue r.groupLabels.head? (r.timeAxis?.map (·.2)) (o.totalLabel.getD defaultTotalLabel) row

/-- The value of the series that a row belongs to. -/
def rowSeries (row : Row) : GroupValue := combined row (r.groupLabels.drop 1)

/-- The rows of a point and a series, by their keys. -/
def rowsAt (point series : String) : List Row :=
  r.rows.filter fun row => (rowPoint r o row).key = point ∧ (rowSeries r row).key = series

/-- The numbers of a value column at a point of a series. -/
def numbersAt (label point series : String) : List Float := numbers label (rowsAt r o point series)

/-- The series in the order in which rows come to them. Without further groups there is one, whether
there are rows or not. -/
def seriesKeys : List String :=
  if r.groupLabels.length ≤ 1 then [""] else (r.rows.map fun row => (rowSeries r row).key).eraseDups

end Keys

section Axes

variable (r : Result) (o : Options) (grid : List GroupValue)

def pointAxis : Axis :=
  let points := Axis.insertAll {} (grid ++ r.rows.map (rowPoint r o))
  if (r.timeAxis?.map (·.2)).isSome then points.sortByKey else points

def seriesAxis : Axis :=
  Axis.insertAll {} ((if r.groupLabels.length ≤ 1 then [rowSeries r .empty] else []) ++
    r.rows.map (rowSeries r))

/-- Where a row is placed, by its keys. -/
def place (row : Row) : String × Nat :=
  ((rowPoint r o row).key, ((seriesAxis r).position? (rowSeries r row).key).getD 0)

def rowTallies : Tallies :=
  tallyRows (pointAxis r o grid) r.valueLabels (r.rows.map fun row => (row, place r o row)) ∅

theorem isEmpty_secondary : (r.groupLabels.drop 1).isEmpty = decide (r.groupLabels.length ≤ 1) := by
  rw [Bool.eq_iff_iff, List.isEmpty_iff, List.drop_eq_nil_iff, decide_eq_true_iff]

/-- The axis of series before there are rows, and with them. -/
theorem seriesAxis_eq :
    let start : Axis := if !(r.groupLabels.drop 1).isEmpty then {}
      else (Axis.insert {} (combined .empty (r.groupLabels.drop 1))).2
    start.Consistent ∧ start.insertAll (r.rows.map (rowSeries r)) = seriesAxis r := by
  rw [isEmpty_secondary, seriesAxis]
  by_cases h : r.groupLabels.length ≤ 1
  · simp only [h, decide_true, Bool.not_true, if_true, Bool.false_eq_true, if_false]
    exact ⟨(Axis.consistent_empty.insert _).1, rfl⟩
  · simp only [h, decide_false, Bool.not_false, if_true, if_false, List.nil_append]
    exact ⟨Axis.consistent_empty, trivial⟩

/-- The rows of a result, placed on both axes. -/
theorem placeRows_rows :
    placeRows (pointValue r.groupLabels.head?
      (r.timeAxis?.map (·.2)) (o.totalLabel.getD defaultTotalLabel))
      (r.groupLabels.drop 1) r.rows (Axis.insertAll {} grid)
      (if !(r.groupLabels.drop 1).isEmpty then {}
        else (Axis.insert {} (combined .empty (r.groupLabels.drop 1))).2) =
    ⟨Axis.insertAll {} (grid ++ r.rows.map (rowPoint r o)), seriesAxis r,
      r.rows.map (place r o)⟩ := by
  obtain ⟨hstart, hseries⟩ := seriesAxis_eq r
  unfold place
  rw [placeRows_eq _ _ _ _ _ hstart, Axis.insertAll_append, ← hseries]
  rfl

/-- The parts of a chart, by its axes. -/
theorem seriesOf_eq :
    (seriesOf r o grid).labels = (pointAxis r o grid).values.toList.map (·.display) ∧
    (seriesOf r o grid).keys = (pointAxis r o grid).keys ∧
    (seriesOf r o grid).datasets = datasets r.valueLabels (!(r.groupLabels.drop 1).isEmpty)
      (seriesAxis r).values.toList (pointAxis r o grid).values.size (rowTallies r o grid)
    (o.display.getD .number) ∧
    (seriesOf r o grid).grandTotal = total ((seriesOf r o grid).datasets.filterMap (·.total)) := by
  have hzip : r.rows.zip (r.rows.map (place r o)) = r.rows.map fun row => (row, place r o row) :=
    List.map_prod_left_eq_zip.symm
  simp only [seriesOf, placeRows_rows, hzip]
  exact ⟨rfl, rfl, rfl, trivial⟩

/-- The points of the window come first, then those of the rows; time is sorted in the end. -/
def pointHistory : List Axis.Change :=
  (grid ++ r.rows.map (rowPoint r o)).map .insert ++ if r.timeAxis?.isSome then [.sortByKey] else []

theorem pointAxis_eq_after : pointAxis r o grid = Axis.after (pointHistory r o grid) := by
  rw [pointHistory, Axis.after_append, Axis.after_map_insert, pointAxis, Option.isSome_map]
  split <;> rfl

theorem inserted_pointHistory :
    Axis.inserted (pointHistory r o grid) = grid ++ r.rows.map (rowPoint r o) := by
  rw [pointHistory, Axis.inserted_append, Axis.inserted_map_insert]
  split <;> exact List.append_nil _

theorem consistent_pointAxis : (pointAxis r o grid).Consistent := by
  rw [pointAxis_eq_after]
  exact Axis.consistent_after _

theorem mem_keys_pointAxis {k : String} :
    k ∈ (pointAxis r o grid).keys ↔ k ∈ grid.map (·.key) ∨
      ∃ row ∈ r.rows, (rowPoint r o row).key = k := by
  rw [pointAxis_eq_after, (Axis.collects_after _).mem_keys, inserted_pointHistory, List.map_append,
    List.mem_append, List.map_map]
  simp

theorem consistent_seriesAxis : (seriesAxis r).Consistent := Axis.consistent_empty.insertAll _

theorem keys_seriesAxis : (seriesAxis r).keys = seriesKeys r := by
  rw [seriesAxis, Axis.keys_insertAll, seriesKeys, List.map_append, List.map_map]
  by_cases h : r.groupLabels.length ≤ 1
  · have hkey (row : Row) : (rowSeries r row).key = "" := by
      rw [rowSeries, List.drop_eq_nil_of_le h]
      rfl
    rw [if_pos h, if_pos h]
    simp [hkey, List.eraseDups_cons, Function.comp_def]
  · rw [if_neg h, if_neg h]
    rfl

end Axes

section Tallies

variable {r : Result} {o : Options} {grid : List GroupValue} {v i p : Nat}
  {label series point : String} {row : Row}

theorem mem_keys_seriesAxis (hrow : row ∈ r.rows) :
    (rowSeries r row).key ∈ (seriesAxis r).keys := by
  rw [seriesAxis, Axis.keys_insertAll, List.mem_eraseDups, List.map_append, List.map_map]
  exact List.mem_append_right _ (List.mem_map.2 ⟨row, hrow, rfl⟩)

theorem place_snd_eq_iff (hrow : row ∈ r.rows) (hseries : (seriesKeys r)[i]? = some series) :
    (place r o row).2 = i ↔ (rowSeries r row).key = series := by
  obtain ⟨j, hj⟩ := (consistent_seriesAxis r).mem_iff.1 (mem_keys_seriesAxis hrow)
  have hplace : (place r o row).2 = j := by rw [place, hj, Option.getD_some]
  rw [← keys_seriesAxis, ← consistent_seriesAxis] at hseries
  rw [hplace]
  constructor
  · rintro rfl
    have hkey := (consistent_seriesAxis r _ _).1 hj
    rw [(consistent_seriesAxis r _ _).1 hseries] at hkey
    exact (Option.some.inj hkey).symm
  · rintro rfl
    rw [hj] at hseries
    exact Option.some.inj hseries

/-- A row is placed where its keys stand. -/
theorem place_eq_iff (hrow : row ∈ r.rows) (hseries : (seriesKeys r)[i]? = some series)
    (hpoint : (pointAxis r o grid).keys[p]? = some point) :
    (pointAxis r o grid).position? (place r o row).1 = some p ∧ (place r o row).2 = i ↔
      (rowPoint r o row).key = point ∧ (rowSeries r row).key = series := by
  have hposition : (pointAxis r o grid).position? (place r o row).1 = some p ↔
      (rowPoint r o row).key = point := by
    rw [consistent_pointAxis, hpoint, Option.some.injEq, eq_comm]
    rfl
  rw [hposition, place_snd_eq_iff hrow hseries]

/-- What is added up for a value column at a point of a series. -/
theorem getD_rowTallies (hlabel : r.valueLabels[v]? = some label)
    (hseries : (seriesKeys r)[i]? = some series)
    (hpoint : (pointAxis r o grid).keys[p]? = some point) :
    (rowTallies r o grid).getD (v, i, p) {} = .of (numbersAt r o label point series) := by
  have hrows : (r.rows.filter fun row =>
      (pointAxis r o grid).position? (place r o row).1 = some p ∧ (place r o row).2 = i) =
      rowsAt r o point series :=
    List.filter_congr fun row hrow => decide_eq_decide.2 (place_eq_iff hrow hseries hpoint)
  rw [rowTallies, getD_tallyRows _ _ hlabel, hrows, Std.HashMap.getD_empty, Tally.addRows_empty,
    numbersAt]

end Tallies

/-- The numbers of a value column on the points of a series. A total is nothing only if no row of
the series has a number. -/
structure Dataset.Holds (r : Result) (o : Options) (keys : List String) (label series : String)
    (d : Dataset) : Prop where
  label_eq : (r.groupLabels.length ≤ 1 → d.label = label) ∧ ∀ row, 1 < r.groupLabels.length →
    r.rows.find? (fun row => (rowSeries r row).key = series) = some row →
      d.label = label ++ " – " ++ (rowSeries r row).display
  data : d.data = keys.map fun point => addUp (numbersAt r o label point series)
  length_data : d.data.length = keys.length
  length_display : d.display.length = keys.length
  total_eq_none : d.total = none ↔
    ∀ row ∈ r.rows, (rowSeries r row).key = series → number? (row.get? label) = none
  total_eq : ∀ t, d.total = some t → t = addUp
    ((keys.filter fun point => !(numbersAt r o label point series).isEmpty).map
      fun point => addUp (numbersAt r o label point series))

section Datasets

variable {r : Result} {o : Options} {grid : List GroupValue} {label series text : String}
  {mode : DisplayMode}

theorem numbersAt_eq_nil {point : String} : numbersAt r o label point series = [] ↔ ∀ row ∈ r.rows,
    (rowPoint r o row).key = point → (rowSeries r row).key = series →
      number? (row.get? label) = none := by
  simp only [numbersAt, numbers_eq_nil, rowsAt, List.mem_filter, decide_eq_true_iff, and_imp]

theorem Dataset.holds_of_tallies {keys : List String}
    (htext : (r.groupLabels.length ≤ 1 → text = label) ∧ ∀ row, 1 < r.groupLabels.length →
      r.rows.find? (fun row => (rowSeries r row).key = series) = some row →
        text = label ++ " – " ++ (rowSeries r row).display)
    (hkeys : ∀ row ∈ r.rows, (rowPoint r o row).key ∈ keys) :
    (dataset text (keys.map fun point => .of (numbersAt r o label point series)) mode).Holds r o
      keys label series := by
  have hdata (xs : List Float) : (if (Tally.of xs).observed then (Tally.of xs).sum else 0) =
      addUp xs := by
    cases xs <;> rfl
  have hsums : ((keys.map fun point => Tally.of (numbersAt r o label point series)).filter
      (·.observed)).map (·.sum) =
      (keys.filter fun point => !(numbersAt r o label point series).isEmpty).map
        fun point => addUp (numbersAt r o label point series) := by
    rw [List.filter_map, List.map_map]
    rfl
  constructor
  case label_eq => exact htext
  case data => simp only [dataset, List.map_map, Function.comp_def, hdata]
  case length_data => simp only [dataset, List.length_map]
  case length_display => simp only [dataset, List.length_map]
  case total_eq_none =>
    simp only [dataset, hsums, total_eq_none, List.map_eq_nil_iff, List.filter_eq_nil_iff,
      Bool.not_eq_true', Bool.not_eq_false, List.isEmpty_iff, numbersAt_eq_nil]
    constructor
    · exact fun h row hrow hseries => h _ (hkeys row hrow) row hrow rfl hseries
    · exact fun h _ _ row hrow _ hseries => h row hrow hseries
  case total_eq =>
    simp only [dataset, hsums]
    exact fun t ht => total_eq_some ht

/-- What the numbers of a value column at a point of a series add up to, where there are any. -/
def SumsTo (r : Result) (o : Options) (label series point : String) (x : Float) : Prop :=
  ∃ xs, xs ≠ [] ∧ Picks (HoldsAt label) (rowsAt r o point series) xs ∧ x = addUp xs

/-- A dataset has the sum of the numbers of a value column at each point of a series. Its total is
nothing only if no row of the series has a number. -/
structure Dataset.Accounts (r : Result) (o : Options) (keys : List String) (label series : String)
    (d : Dataset) : Prop where
  label_eq : (r.groupLabels.length ≤ 1 → d.label = label) ∧ ∀ row, 1 < r.groupLabels.length →
    r.rows.find? (fun row => (rowSeries r row).key = series) = some row →
      d.label = label ++ " – " ++ (rowSeries r row).display
  data : List.Forall₂ (fun point x => ∃ xs, Picks (HoldsAt label) (rowsAt r o point series) xs ∧
    x = addUp xs) keys d.data
  length_display : d.display.length = keys.length
  total_eq_none : d.total = none ↔
    ∀ row ∈ r.rows, (rowSeries r row).key = series → ∀ x, ¬ HoldsAt label row x
  total_eq : ∀ t, d.total = some t → ∃ sums, Picks (SumsTo r o label series) keys sums ∧
    t = addUp sums

/-- The chart of a result has each of its numbers in one place. -/
structure Series.Accounts (r : Result) (o : Options) (s : Series) : Prop where
  nodup : s.keys.Nodup
  point_mem : ∀ row ∈ r.rows, (rowPoint r o row).key ∈ s.keys
  length_labels : s.labels.length = s.keys.length
  datasets : List.Forall₂ (fun (p : String × String) d => d.Accounts r o s.keys p.1 p.2)
    (r.valueLabels ×ˢ seriesKeys r) s.datasets
  grandTotal_eq_none : s.grandTotal = none ↔ ∀ d ∈ s.datasets, d.total = none
  grandTotal_eq : ∀ t, s.grandTotal = some t → t = addUp (s.datasets.filterMap (·.total))

theorem sumsTo_iff {point : String} {x : Float} : SumsTo r o label series point x ↔
    numbersAt r o label point series ≠ [] ∧ x = addUp (numbersAt r o label point series) := by
  simp only [SumsTo, picks_numbers, numbersAt]
  grind

theorem picks_sumsTo (keys : List String) : Picks (SumsTo r o label series) keys
    ((keys.filter fun point => !(numbersAt r o label point series).isEmpty).map
      fun point => addUp (numbersAt r o label point series)) := by
  refine picks_filter_map (fun point h => sumsTo_iff.2 ⟨?_, rfl⟩) (fun point h x hx => h ?_) keys
  · simpa using h
  · simpa using (sumsTo_iff.1 hx).1

theorem Dataset.Holds.accounts {keys : List String} {d : Dataset}
    (h : d.Holds r o keys label series) :
    d.Accounts r o keys label series where
  label_eq := h.label_eq
  data := by
    rw [h.data, List.forall₂_map_right_iff, List.forall₂_same]
    exact fun point _ => ⟨_, picks_numbers.2 rfl, rfl⟩
  length_display := h.length_display
  total_eq_none := by simp only [h.total_eq_none, number?_get?_eq_none]
  total_eq t ht := ⟨_, picks_sumsTo keys, h.total_eq t ht⟩

theorem forall₂_zipIdx {α : Type} (l : List α) :
    List.Forall₂ (fun x y => y.1 = x ∧ l[y.2]? = some x) l l.zipIdx := by
  have h : List.Forall₂ (fun x y => y.1 = x ∧ l[y.2]? = some x) (l.zipIdx.map Prod.fst)
      l.zipIdx := by
    rw [List.forall₂_map_left_iff, List.forall₂_same]
    exact fun y hy => ⟨rfl, List.mem_zipIdx_iff_getElem?.1 hy⟩
  rwa [List.zipIdx_map_fst] at h

theorem map_range {α : Type} {keys : List String} {f : Nat → α} {g : String → α}
    (h : ∀ p k, keys[p]? = some k → f p = g k) : (List.range keys.length).map f = keys.map g := by
  refine List.ext_getElem (by simp) fun p hp hp' => ?_
  rw [List.getElem_map, List.getElem_map, List.getElem_range]
  exact h p _ (List.getElem?_eq_getElem _)

/-- A series is shown as its first row shows it. -/
theorem datasetLabel_of_mem {value : GroupValue} (h : value ∈ (seriesAxis r).values.toList) :
    (r.groupLabels.length ≤ 1 →
      datasetLabel label (!(r.groupLabels.drop 1).isEmpty) value = label) ∧
    ∀ row, 1 < r.groupLabels.length →
      r.rows.find? (fun row => (rowSeries r row).key = value.key) = some row →
        datasetLabel label (!(r.groupLabels.drop 1).isEmpty) value =
          label ++ " – " ++ (rowSeries r row).display := by
  rw [isEmpty_secondary]
  constructor
  · intro hone
    simp [datasetLabel, hone]
  · intro row hmore hrow
    have hfirst := (Axis.collects_insertAll _ value).1 h
    rw [Axis.IsFirst, if_neg (Nat.not_le.2 hmore), List.nil_append, List.find?_map] at hfirst
    change Option.map (rowSeries r) (r.rows.find? fun row => (rowSeries r row).key = value.key) =
      some value at hfirst
    rw [hrow] at hfirst
    cases hfirst
    simp [datasetLabel, hmore]

/-- There is a dataset for each value column and each series. -/
theorem datasets_seriesOf :
    List.Forall₂ (fun (p : String × String) d => d.Holds r o (seriesOf r o grid).keys p.1 p.2)
    (r.valueLabels ×ˢ seriesKeys r) (seriesOf r o grid).datasets := by
  obtain ⟨-, hkeys, hdatasets, -⟩ := seriesOf_eq r o grid
  have hsize : (pointAxis r o grid).values.size = (pointAxis r o grid).keys.length := by
    simp [Axis.keys]
  have hvalues : seriesKeys r = (seriesAxis r).values.toList.map (·.key) := (keys_seriesAxis r).symm
  have hmem (row : Row) (hrow : row ∈ r.rows) :
      (rowPoint r o row).key ∈ (pointAxis r o grid).keys :=
    (mem_keys_pointAxis r o grid).2 (.inr ⟨row, hrow, rfl⟩)
  rw [hkeys, hdatasets, datasets, hsize]
  refine List.rel_flatMap (forall₂_zipIdx _) ?_
  rintro _ ⟨label, v⟩ ⟨rfl, hlabel⟩
  rw [List.forall₂_map_left_iff, List.forall₂_map_right_iff, hvalues, List.forall₂_map_left_iff]
  refine (forall₂_zipIdx _).imp ?_
  rintro _ ⟨value, i⟩ ⟨rfl, hvalue⟩
  have hseries : (seriesKeys r)[i]? = some value.key := by
    rw [hvalues, List.getElem?_map, hvalue]
    rfl
  dsimp only
  rw [map_range fun p point hpoint => getD_rowTallies hlabel hseries hpoint]
  exact Dataset.holds_of_tallies (datasetLabel_of_mem (List.mem_of_getElem? hvalue)) hmem

theorem accounts_seriesOf : (seriesOf r o grid).Accounts r o := by
  obtain ⟨hlabels, hkeys, -, htotal⟩ := seriesOf_eq r o grid
  constructor
  case nodup => exact hkeys ▸ (consistent_pointAxis r o grid).nodup
  case point_mem =>
    intro row hrow
    rw [hkeys, mem_keys_pointAxis]
    exact .inr ⟨row, hrow, rfl⟩
  case length_labels => simp [hlabels, hkeys, Axis.keys]
  case datasets => exact datasets_seriesOf.imp fun _ _ h => h.accounts
  case grandTotal_eq_none =>
    rw [htotal, total_eq_none, List.filterMap_eq_nil_iff]
  case grandTotal_eq =>
    intro t ht
    rw [htotal] at ht
    exact total_eq_some ht

end Datasets

section Chart

variable {r : Result} {o : Options} {w : Timeframe} {maxPoints : Nat}

/-- The walk over the buckets of the window does not leave the calendar. -/
def WalksInside (r : Result) (w : Timeframe) (maxPoints : Nat) : Prop :=
  ∀ label b start stop, r.timeAxis? = some (label, b) → w.bounds? = some (start, stop) →
    (b.range? start stop maxPoints).isSome

theorem exists_gridPoints? (h : WalksInside r w maxPoints) :
    ∃ grid, gridPoints? (r.timeAxis?.map (·.2)) w maxPoints = some grid := by
  unfold gridPoints?
  split
  · next b start stop haxis hw =>
    obtain ⟨⟨label, b⟩, htime, rfl⟩ := Option.map_eq_some_iff.1 haxis
    obtain ⟨points, hpoints⟩ := Option.isSome_iff_exists.1 (h label b start stop htime hw)
    exact ⟨_, congrArg (Option.map _) hpoints⟩
  · exact ⟨[], rfl⟩

/-- Charts lose, double and misplace no number. -/
theorem accounts_of_formatSeries (r : Result) (o : Options) (w : Timeframe) (maxPoints : Nat)
    (h : WalksInside r w maxPoints) :
    ∃ s, formatSeries? r o w maxPoints = some s ∧ s.Accounts r o := by
  obtain ⟨grid, hgrid⟩ := exists_gridPoints? h
  exact ⟨seriesOf r o grid, congrArg (Option.map _) hgrid, accounts_seriesOf⟩

/-- 6 March 2024. -/
def sixth : Date := ⟨738950, by decide, by decide⟩

def seventh : Date := ⟨738951, by decide, by decide⟩

def eighth : Date := ⟨738952, by decide, by decide⟩

def threeDays : Timeframe := ⟨some sixth.midnight, some eighth.midnight⟩

/-- Incidents by day and severity, all of the second day; one severity is unknown and has no
number. -/
def daily : Result where
  chartType := .timechart
  rows := [.ofList [("day", .timestamp seventh.midnight), ("severity", .int 2), ("n", .int 3)],
    .ofList [("day", .timestamp seventh.midnight), ("severity", .null), ("n", .text "x")]]
  groupLabels := ["day", "severity"]
  valueLabels := ["n"]
  selectLabels := ["day", "severity", "n"]
  timeLabel := some "day"
  timeBucket := some .day

theorem walksInside_daily : WalksInside daily threeDays 10 := by
  intro label b start stop haxis hw
  cases haxis
  cases hw
  decide

section Sample

variable {label series point : String} {keys : List String} {d : Dataset} {s : Series}

theorem Dataset.Accounts.data_eq (h : d.Accounts r o keys label series) :
    d.data = keys.map fun point => addUp (numbersAt r o label point series) := by
  have hdata : List.Forall₂ Eq (keys.map fun point => addUp (numbersAt r o label point series))
      d.data := by
    rw [List.forall₂_map_left_iff]
    refine h.data.imp fun point x hx => ?_
    obtain ⟨xs, hxs, rfl⟩ := hx
    rw [numbersAt, picks_numbers.1 hxs]
  rw [List.forall₂_eq_eq_eq] at hdata
  exact hdata.symm

/-- Where a point has numbers, the total is the sum of the points that have some. -/
theorem Dataset.Accounts.total_eq_addUp (h : d.Accounts r o keys label series)
    (hpoint : ∃ point, numbersAt r o label point series ≠ []) : d.total = some (addUp
      ((keys.filter fun point => !(numbersAt r o label point series).isEmpty).map
        fun point => addUp (numbersAt r o label point series))) := by
  obtain ⟨point, hpoint⟩ := hpoint
  cases htotal : d.total with
  | none =>
    refine absurd (numbersAt_eq_nil.2 fun row hrow _ hseries => ?_) hpoint
    exact number?_get?_eq_none.2 (h.total_eq_none.1 htotal row hrow hseries)
  | some t =>
    obtain ⟨sums, hsums, rfl⟩ := h.total_eq t htotal
    have hone (p : String) (x y : Float) (hx : SumsTo r o label series p x)
        (hy : SumsTo r o label series p y) : x = y := by
      rw [(sumsTo_iff.1 hx).2, (sumsTo_iff.1 hy).2]
    rw [hsums.unique hone (picks_sumsTo keys)]

/-- Incidents and their costs by client and severity. Numbers are integers, doubles and texts; some
are missing, one is null, one is not finite and one is not a number. -/
def costs : Result where
  chartType := .bar
  rows := [
    .ofList [("client", .text "Zeta"), ("severity", .text "High"), ("n", .int 3),
      ("cost", .text " 2.5 ")],
    .ofList [("client", .text "Acme"), ("severity", .text "Low"), ("n", .null),
      ("cost", .float (0 / 0))],
    .ofList [("client", .text "Zeta"), ("severity", .text "High"), ("n", .text "1e1"),
      ("cost", .text "n/a")],
    .ofList [("client", .text "Acme"), ("severity", .text "High"), ("cost", .float 0.25)]]
  groupLabels := ["client", "severity"]
  valueLabels := ["n", "cost"]
  selectLabels := ["client", "severity", "n", "cost"]
  timeLabel := none
  timeBucket := none

theorem walksInside_costs : WalksInside costs ⟨none, none⟩ 10 := by
  intro label b start stop haxis
  cases haxis

theorem keys_costs {s : Series} (h : formatSeries? costs {} ⟨none, none⟩ 10 = some s) :
    s.keys = ["Zeta", "Acme"] := by
  obtain rfl : seriesOf costs {} [] = s := Option.some.inj h
  rw [(seriesOf_eq costs {} []).2.1]
  change (Axis.insertAll {} (costs.rows.map (rowPoint costs {}))).keys = _
  rw [Axis.keys_insertAll]
  decide +kernel

theorem accounts_of_formatSeries_costs : ∃ s, formatSeries? costs {} ⟨none, none⟩ 10 = some s ∧
    s.keys = ["Zeta", "Acme"] ∧
    s.datasets.map (·.label) = ["n – High", "n – Low", "cost – High", "cost – Low"] ∧
    s.datasets.map (·.data) = [[13, 0], [0, 0], [2.5, 0.25], [0, 0]] ∧
    s.datasets.map (·.total) = [some 13, none, some 2.75, none] ∧ s.grandTotal = some 15.75 := by
  obtain ⟨s, hs, h⟩ := accounts_of_formatSeries costs {} ⟨none, none⟩ 10 walksInside_costs
  have hkeys := keys_costs hs
  have hdatasets := h.datasets
  rw [hkeys] at hdatasets
  have hproduct : costs.valueLabels ×ˢ seriesKeys costs =
      [("n", "High"), ("n", "Low"), ("cost", "High"), ("cost", "Low")] := by
    decide +kernel
  rw [hproduct] at hdatasets
  have hlow (label : String) (hrows : ∀ row ∈ costs.rows, (rowSeries costs row).key = "Low" →
      number? (row.get? label) = none) (row : Row) (hrow : row ∈ costs.rows)
      (hseries : (rowSeries costs row).key = "Low") : ∀ x, ¬ HoldsAt label row x :=
    number?_get?_eq_none.1 (hrows row hrow hseries)
  refine ⟨s, hs, hkeys, ?_⟩
  have hnone := h.grandTotal_eq_none
  have hsome := h.grandTotal_eq
  generalize s.datasets = ds at hdatasets hnone hsome ⊢
  match ds, hdatasets with
  | [d₀, d₁, d₂, d₃], .cons h₀ (.cons h₁ (.cons h₂ (.cons h₃ .nil))) =>
    have label₀ : d₀.label = "n – High" := h₀.label_eq.2 _ (by decide) rfl
    have label₁ : d₁.label = "n – Low" := h₁.label_eq.2 _ (by decide) rfl
    have label₂ : d₂.label = "cost – High" := h₂.label_eq.2 _ (by decide) rfl
    have label₃ : d₃.label = "cost – Low" := h₃.label_eq.2 _ (by decide) rfl
    have data₀ : d₀.data = [13, 0] := h₀.data_eq.trans (by decide +kernel)
    have data₁ : d₁.data = [0, 0] := h₁.data_eq.trans (by decide +kernel)
    have data₂ : d₂.data = [2.5, 0.25] := h₂.data_eq.trans (by decide +kernel)
    have data₃ : d₃.data = [0, 0] := h₃.data_eq.trans (by decide +kernel)
    have total₀ : d₀.total = some 13 :=
      (h₀.total_eq_addUp ⟨"Zeta", by decide +kernel⟩).trans (by decide +kernel)
    have total₁ : d₁.total = none := h₁.total_eq_none.2 (hlow "n" (by decide +kernel))
    have total₂ : d₂.total = some 2.75 :=
      (h₂.total_eq_addUp ⟨"Zeta", by decide +kernel⟩).trans (by decide +kernel)
    have total₃ : d₃.total = none := h₃.total_eq_none.2 (hlow "cost" (by decide +kernel))
    have grand : s.grandTotal = some 15.75 := by
      cases hgrand : s.grandTotal with
      | none =>
        have hfirst := hnone.1 hgrand d₀ List.mem_cons_self
        rw [total₀] at hfirst
        cases hfirst
      | some t =>
        rw [hsome t hgrand]
        simp only [List.filterMap_cons, List.filterMap_nil, total₀, total₁, total₂, total₃]
        decide +kernel
    simp only [List.map_cons, List.map_nil, label₀, label₁, label₂, label₃, data₀, data₁, data₂,
      data₃, total₀, total₁, total₂, total₃, grand, and_self]

end Sample

end Chart

end IncidentBoard.Payload
