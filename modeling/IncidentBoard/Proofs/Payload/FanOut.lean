import IncidentBoard.Proofs.Payload.Series

/-! Which rows are of one series. The keys of the further groups are joined at a separator that they
can hold themselves, so that two rows are of one series if their keys have the same pieces. -/
namespace IncidentBoard.Payload

open Store Widget

section Pieces

variable {ι : Type} {c : Char}

theorem splitOn_inj {xs ys : List Char} (h : xs.splitOn c = ys.splitOn c) : xs = ys :=
  calc xs = [c].intercalate (xs.splitOn c) := (List.intercalate_splitOn c).symm
    _ = [c].intercalate (ys.splitOn c) := by rw [h]
    _ = ys := List.intercalate_splitOn c

theorem length_splitOn (c : Char) (xs : List Char) : (xs.splitOn c).length = xs.count c + 1 := by
  induction xs with
  | nil => simp
  | cons x xs ih =>
    rw [List.splitOn_cons_eq_if_modifyHead, List.count_cons]
    split <;> simp [ih]

/-- What is joined is cut at the separators of its parts as well. -/
theorem splitOn_intercalate_eq {parts : List (List Char)} (h : parts ≠ []) :
    ([c].intercalate parts).splitOn c = parts.flatMap (List.splitOn c) := by
  induction parts with
  | nil => exact absurd rfl h
  | cons xs parts ih =>
    cases parts with
    | nil => simp
    | cons ys parts =>
      rw [List.intercalate_cons_cons, List.append_assoc, List.singleton_append,
        List.splitOn_append_cons_self, ih (List.cons_ne_nil ys parts), List.flatMap_cons (x := xs)]

/-- Joined parts are equal exactly if their pieces are. -/
theorem intercalate_eq_iff (labels : List ι) (f g : ι → List Char) :
    [c].intercalate (labels.map f) = [c].intercalate (labels.map g) ↔
      labels.flatMap (fun l => (f l).splitOn c) = labels.flatMap fun l => (g l).splitOn c := by
  cases labels with
  | nil => simp
  | cons l labels =>
    have hpieces (f : ι → List Char) : ([c].intercalate ((l :: labels).map f)).splitOn c =
        (l :: labels).flatMap fun l => (f l).splitOn c := by
      rw [splitOn_intercalate_eq (by simp), List.flatMap_map]
    rw [← hpieces, ← hpieces]
    exact ⟨congrArg _, splitOn_inj⟩

/-- Parts are known by their pieces if all but the last are known to have equally many. -/
theorem pieces_eq_iff {labels : List ι} {f g : ι → List Char}
    (h : ∀ l ∈ labels.dropLast, (f l).count c = (g l).count c) :
    (labels.flatMap fun l => (f l).splitOn c) = (labels.flatMap fun l => (g l).splitOn c) ↔
      ∀ l ∈ labels, f l = g l := by
  refine ⟨fun hpieces => ?_, fun hparts => ?_⟩
  · induction labels with
    | nil => simp
    | cons l labels ih =>
      cases labels with
      | nil =>
        have hl : f l = g l := splitOn_inj (by simpa using hpieces)
        simpa using hl
      | cons l' labels =>
        rw [List.dropLast_cons_of_ne_nil (List.cons_ne_nil _ _), List.forall_mem_cons] at h
        -- the first parts have equally many pieces, so both lists of pieces are cut at one place
        have hlength : ((f l).splitOn c).length = ((g l).splitOn c).length := by
          rw [length_splitOn, length_splitOn, h.1]
        rw [List.flatMap_cons, List.flatMap_cons (f := fun l => (g l).splitOn c)] at hpieces
        obtain ⟨hfirst, hrest⟩ := List.append_inj hpieces hlength
        exact List.forall_mem_cons.2 ⟨splitOn_inj hfirst, ih h.2 hrest⟩
  · exact congrArg List.flatten (List.map_congr_left fun l hl => by rw [hparts l hl])

end Pieces

/-- The key of a row in a group column, as series have it. -/
def groupKey (row : Row) (label : String) : String := (groupValue (row.get? label) none).key

/-- What stands between the separators in the keys of the further groups. -/
def pieces (r : Result) (row : Row) : List (List Char) :=
  (r.groupLabels.drop 1).flatMap fun label => (groupKey row label).toList.splitOn '\x1f'

/-- The keys of the further groups, but for the last one, hold as many separators in both rows. -/
def Aligned (r : Result) (row row' : Row) : Prop := ∀ label ∈ (r.groupLabels.drop 1).dropLast,
  (groupKey row label).toList.count '\x1f' = (groupKey row' label).toList.count '\x1f'

/-- The rows of a result, each with the series that it feeds: its position among the datasets of a
value column. -/
def fedRows (r : Result) (o : Options) (grid : List GroupValue) : List (Row × Nat) :=
  let secondary := r.groupLabels.drop 1
  let series : Axis :=
    if !secondary.isEmpty then {} else (Axis.insert {} (combined .empty secondary)).2
  let placed := placeRows
    (pointValue r.groupLabels.head? (r.timeAxis?.map (·.2)) (o.totalLabel.getD defaultTotalLabel))
    secondary r.rows (Axis.insertAll {} grid) series
  r.rows.zip (placed.rows.map (·.2))

/-- Two rows feed one series exactly if the keys of their further groups have the same pieces, and
if they are aligned, exactly if these keys are equal. The datasets of a value column add up the
numbers of the rows that feed them. -/
structure FannedOut (r : Result) (o : Options) (fed : List (Row × Nat)) (s : Series) : Prop where
  rows : fed.map (·.1) = r.rows
  same_iff : ∀ e ∈ fed, ∀ e' ∈ fed, e.2 = e'.2 ↔ pieces r e.1 = pieces r e'.1
  aligned_iff : ∀ e ∈ fed, ∀ e' ∈ fed, Aligned r e.1 e'.1 →
    (e.2 = e'.2 ↔ ∀ label ∈ r.groupLabels.drop 1, groupKey e.1 label = groupKey e'.1 label)
  data : List.Forall₂ (fun (p : String × Nat) d => d.data = s.keys.map fun point =>
      addUp (numbers p.1
        ((fed.filter fun e => (rowPoint r o e.1).key = point ∧ e.2 = p.2).map (·.1))))
    (r.valueLabels ×ˢ List.range (seriesKeys r).length) s.datasets

section Rows

variable {r : Result} {o : Options} {grid : List GroupValue} {row row' : Row} {i : Nat}
  {series point : String}

theorem key_rowSeries_eq_iff :
    (rowSeries r row).key = (rowSeries r row').key ↔ pieces r row = pieces r row' := by
  have hlists (row : Row) : (rowSeries r row).key.toList =
      ['\x1f'].intercalate ((r.groupLabels.drop 1).map fun label =>
        (groupKey row label).toList) := by
    simp [rowSeries, combined, groupKey, String.toList_intercalate, Function.comp_def]
  rw [← String.toList_inj, hlists, hlists, intercalate_eq_iff]
  rfl

theorem fedRows_eq (r : Result) (o : Options) (grid : List GroupValue) :
    fedRows r o grid = r.rows.map fun row => (row, (place r o row).2) := by
  rw [fedRows, placeRows_rows]
  dsimp only
  rw [List.map_map]
  exact List.map_prod_left_eq_zip.symm

theorem mem_fedRows (hrow : row ∈ r.rows) : (row, (place r o row).2) ∈ fedRows r o grid := by
  rw [fedRows_eq]
  exact List.mem_map_of_mem (f := fun row => (row, (place r o row).2)) hrow

/-- Rows feed one series exactly if it has one key. -/
theorem place_snd_eq_place_snd_iff (hrow : row ∈ r.rows) (hrow' : row' ∈ r.rows) :
    (place r o row).2 = (place r o row').2 ↔ (rowSeries r row).key = (rowSeries r row').key := by
  obtain ⟨i, hi⟩ := List.mem_iff_getElem?.1 (keys_seriesAxis r ▸ mem_keys_seriesAxis hrow')
  rw [(place_snd_eq_iff hrow' hi).2 rfl, place_snd_eq_iff hrow hi]

/-- The rows that feed a series are those of its key. -/
theorem filter_fedRows (hseries : (seriesKeys r)[i]? = some series) :
    ((fedRows r o grid).filter fun e => (rowPoint r o e.1).key = point ∧ e.2 = i).map (·.1) =
      rowsAt r o point series := by
  rw [fedRows_eq, List.filter_map, List.map_map]
  refine (List.map_id _).trans (List.filter_congr fun row hrow => decide_eq_decide.2 ?_)
  exact and_congr_right fun _ => place_snd_eq_iff (o := o) hrow hseries

theorem pieces_eq_iff_of_aligned (h : Aligned r row row') :
    pieces r row = pieces r row' ↔
      ∀ label ∈ r.groupLabels.drop 1, groupKey row label = groupKey row' label := by
  have hparts : pieces r row = pieces r row' ↔
      ∀ label ∈ r.groupLabels.drop 1, (groupKey row label).toList = (groupKey row' label).toList :=
    pieces_eq_iff h
  simpa only [String.toList_inj] using hparts

theorem data_seriesOf :
    List.Forall₂ (fun (p : String × Nat) d => d.data = (seriesOf r o grid).keys.map fun point =>
      addUp (numbers p.1 (((fedRows r o grid).filter fun e =>
        (rowPoint r o e.1).key = point ∧ e.2 = p.2).map (·.1))))
    (r.valueLabels ×ˢ List.range (seriesKeys r).length) (seriesOf r o grid).datasets := by
  have hproduct : r.valueLabels ×ˢ seriesKeys r =
      (r.valueLabels ×ˢ List.range (seriesKeys r).length).map fun p =>
        (p.1, (seriesKeys r)[p.2]?.getD "") := by
    have hseries (label : String) : (seriesKeys r).map (Prod.mk label) =
        (List.range (seriesKeys r).length).map fun i => (label, (seriesKeys r)[i]?.getD "") :=
      (map_range fun i series hi => by rw [hi, Option.getD_some]).symm
    change r.valueLabels.flatMap (fun label => (seriesKeys r).map (Prod.mk label)) =
      (r.valueLabels.flatMap fun label =>
        (List.range (seriesKeys r).length).map (Prod.mk label)).map _
    simp only [hseries, List.map_flatMap, List.map_map, Function.comp_def]
  have hrange (p : String × Nat) (hp : p ∈ r.valueLabels ×ˢ List.range (seriesKeys r).length) :
      (seriesKeys r)[p.2]? = some ((seriesKeys r)[p.2]?.getD "") := by
    rw [List.getElem?_eq_getElem (List.mem_range.1 (List.mem_product.1 hp).2), Option.getD_some]
  have hdatasets := @datasets_seriesOf r o grid
  rw [hproduct, List.forall₂_map_left_iff] at hdatasets
  refine ((List.forall₂_and_left _ _).2 ⟨hrange, hdatasets⟩).imp fun p d ⟨hseries, hd⟩ => ?_
  simp only [filter_fedRows hseries]
  exact hd.data

theorem fannedOut_seriesOf : FannedOut r o (fedRows r o grid) (seriesOf r o grid) := by
  have hsame (e e' : Row × Nat) (he : e ∈ fedRows r o grid) (he' : e' ∈ fedRows r o grid) :
      e.2 = e'.2 ↔ pieces r e.1 = pieces r e'.1 := by
    rw [fedRows_eq] at he he'
    obtain ⟨row, hrow, rfl⟩ := List.mem_map.1 he
    obtain ⟨row', hrow', rfl⟩ := List.mem_map.1 he'
    rw [place_snd_eq_place_snd_iff hrow hrow', key_rowSeries_eq_iff]
  constructor
  case rows =>
    rw [fedRows_eq, List.map_map]
    exact List.map_id _
  case same_iff => exact fun e he e' he' => hsame e e' he he'
  case aligned_iff => exact fun e he e' he' h =>
    (hsame e e' he he').trans (pieces_eq_iff_of_aligned h)
  case data => exact data_seriesOf

end Rows

/-- The rows of a result are fanned out into series by the pieces of the keys of their further
groups. -/
theorem fannedOut_of_formatSeries (r : Result) (o : Options) (w : Timeframe) (maxPoints : Nat)
    (h : WalksInside r w maxPoints) :
    ∃ grid s, gridPoints? (r.timeAxis?.map (·.2)) w maxPoints = some grid ∧
      formatSeries? r o w maxPoints = some s ∧ FannedOut r o (fedRows r o grid) s := by
  obtain ⟨grid, hgrid⟩ := exists_gridPoints? h
  exact ⟨grid, seriesOf r o grid, hgrid, congrArg (Option.map _) hgrid, fannedOut_seriesOf⟩

theorem fannedOut_of_formatSeries_daily : ∃ grid s, formatSeries? daily {} threeDays 10 = some s ∧
    FannedOut daily {} (fedRows daily {} grid) s := by
  obtain ⟨grid, s, -, hs, hfanned⟩ :=
    fannedOut_of_formatSeries daily {} threeDays 10 walksInside_daily
  exact ⟨grid, s, hs, hfanned⟩

/-- A separator in the name of the client, and one in the name of the owner. -/
def inClient : Row :=
  .ofList [("day", .text "mon"), ("client", .text "a\x1fb"), ("owner", .text "c"), ("n", .int 1)]

def inOwner : Row :=
  .ofList [("day", .text "mon"), ("client", .text "a"), ("owner", .text "b\x1fc"), ("n", .int 2)]

def separated : Result where
  chartType := .bar
  rows := [inClient, inOwner]
  groupLabels := ["day", "client", "owner"]
  valueLabels := ["n"]
  selectLabels := ["day", "client", "owner", "n"]
  timeLabel := none
  timeBucket := none

/-- Two clients are added up in one dataset, the only one. -/
theorem exists_merged_separated :
    ∃ s, formatSeries? separated {} .unbounded 10 = some s ∧ s.datasets.length = 1 ∧
    ∃ i, (inClient, i) ∈ fedRows separated {} [] ∧ (inOwner, i) ∈ fedRows separated {} [] ∧
      groupKey inClient "client" ≠ groupKey inOwner "client" := by
  have hpieces : pieces separated inClient = pieces separated inOwner := by
    decide +kernel
  have hkeys : (separated.valueLabels ×ˢ seriesKeys separated).length = 1 := by
    decide +kernel
  have hdiffers : groupKey inClient "client" ≠ groupKey inOwner "client" := by
    decide +kernel
  have hfirst : inClient ∈ separated.rows := List.mem_cons_self
  have hsecond : inOwner ∈ separated.rows := List.mem_cons_of_mem _ List.mem_cons_self
  have hplace : (place separated {} inClient).2 = (place separated {} inOwner).2 := by
    rw [place_snd_eq_place_snd_iff hfirst hsecond, key_rowSeries_eq_iff, hpieces]
  have hfed : (inClient, (place separated {} inOwner).2) ∈ fedRows separated {} [] :=
    hplace ▸ mem_fedRows hfirst
  exact ⟨seriesOf separated {} [], rfl, datasets_seriesOf.length_eq.symm.trans hkeys, _, hfed,
    mem_fedRows hsecond, hdiffers⟩

end IncidentBoard.Payload
