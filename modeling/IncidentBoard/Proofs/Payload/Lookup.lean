import IncidentBoard.Proofs.Payload.Series
import Mathlib.Data.List.Dedup

/-! Totals and percentages by the labels of their datasets. Datasets are told apart by their keys,
but their labels are made of what is shown. -/
namespace IncidentBoard

namespace Keyed

variable {α β : Type} {l : List (String × α)} {k : String}

theorem nodup_keys (m : Keyed α) : m.keys.Nodup := by
  refine List.pairwise_map.2 (m.ascending.imp fun {a b} h he => ?_)
  rw [he] at h
  exact String.lt_irrefl _ h

theorem mem_keys_ofList : k ∈ (ofList l).keys ↔ k ∈ l.map (·.1) := by
  have hlookup := get?_ofList l k
  have hentries : (ofList l).get? k = none ↔ k ∉ (ofList l).keys := lookup_eq_none_iff_notMem
  have hlist : l.reverse.lookup k = none ↔ k ∉ l.map (·.1) := by
    rw [lookup_eq_none_iff_notMem, List.map_reverse, List.mem_reverse]
  exact not_iff_not.1 (hentries.symm.trans (hlookup ▸ hlist))

/-- There is an entry for each key of the list, however often the list has it. -/
theorem keys_ofList_perm (l : List (String × α)) : (ofList l).keys.Perm (l.map (·.1)).dedup := by
  refine (List.perm_ext_iff_of_nodup (nodup_keys _) (List.nodup_dedup _)).2 fun k => ?_
  rw [mem_keys_ofList, List.mem_dedup]

theorem length_ofList_eq_iff : (ofList l).entries.length = l.length ↔ (l.map (·.1)).Nodup := by
  have hlength : (ofList l).entries.length = (l.map (·.1)).dedup.length := by
    simpa [keys] using (keys_ofList_perm l).length_eq
  have hkeys : (l.map (·.1)).length = l.length := List.length_map _
  rw [hlength, ← hkeys]
  constructor
  · intro h
    exact List.dedup_eq_self.1 ((List.dedup_sublist _).eq_of_length h)
  · intro h
    rw [h.dedup]

/-- What is listed under a name is the last thing of that name. -/
theorem get?_ofList_map (xs : List β) (name : β → String) (value : β → α) :
    (ofList (xs.map fun x => (name x, value x))).get? k =
      (xs.reverse.find? (name · = k)).map value := by
  rw [get?_ofList, ← List.map_reverse]
  induction xs.reverse with
  | nil => rfl
  | cons x xs ih =>
    rw [List.map_cons, lookup_cons_eq, ih, List.find?_cons]
    by_cases hk : k = name x
    · simp [hk]
    · simp [hk, Ne.symm hk]

end Keyed

namespace Payload

open Store Widget

/-- Every dataset is found by its label. -/
def Series.Found (s : Series) : Prop := ∀ d ∈ s.datasets,
  s.totals.get? d.label = some d.total ∧
    s.percentages.get? d.label = some (percentOf d.total s.grandTotal)

/-- What is listed by label: the total and the share of the last dataset of that label. There are as
many entries as there are datasets exactly if each has a label of its own, and then every dataset is
found. -/
structure Series.Listed (s : Series) : Prop where
  totals : ∀ label, s.totals.get? label = (s.datasets.reverse.find? (·.label = label)).map (·.total)
  percentages : ∀ label, s.percentages.get? label =
    (s.datasets.reverse.find? (·.label = label)).map fun d => percentOf d.total s.grandTotal
  length_totals : s.totals.entries.length = s.datasets.length ↔ (s.datasets.map (·.label)).Nodup
  length_percentages : s.percentages.entries.length = s.datasets.length ↔
    (s.datasets.map (·.label)).Nodup
  found : (s.datasets.map (·.label)).Nodup → s.Found

/-- The value columns have labels of their own, without blanks, and rows that are shown alike are of
one series. -/
structure ShownApart (r : Result) : Prop where
  nodup : r.valueLabels.Nodup
  plain : ∀ label ∈ r.valueLabels, ' ' ∉ label.toList
  apart : ∀ row ∈ r.rows, ∀ row' ∈ r.rows, (rowSeries r row).display = (rowSeries r row').display →
    (rowSeries r row).key = (rowSeries r row').key

section Labels

variable {r : Result} {o : Options} {grid : List GroupValue}

theorem listed_seriesOf : (seriesOf r o grid).Listed := by
  set s := seriesOf r o grid with hs
  have htotals : s.totals = .ofList (s.datasets.map fun d => (d.label, d.total)) := rfl
  have hpercentages : s.percentages = .ofList (s.datasets.map fun d =>
      (d.label, percentOf d.total s.grandTotal)) := rfl
  have hlabels (value : Dataset → Option Float) :
      (s.datasets.map fun d => (d.label, value d)).map (·.1) = s.datasets.map (·.label) := by
    rw [List.map_map]
    rfl
  have hlength (value : Dataset → Option Float) :
      (Keyed.ofList (s.datasets.map fun d => (d.label, value d))).entries.length =
        s.datasets.length ↔
        (s.datasets.map (·.label)).Nodup := by
    rw [← hlabels value, ← Keyed.length_ofList_eq_iff, List.length_map]
  refine ⟨fun label => ?_, fun label => ?_, ?_, ?_, fun hnodup d hd => ⟨?_, ?_⟩⟩
  · rw [htotals, Keyed.get?_ofList_map]
  · rw [hpercentages, Keyed.get?_ofList_map]
  · rw [htotals, hlength]
  · rw [hpercentages, hlength]
  · rw [htotals]
    exact Keyed.get?_ofList_of_mem ((hlabels _).symm ▸ hnodup) (List.mem_map_of_mem hd)
  · rw [hpercentages]
    exact Keyed.get?_ofList_of_mem ((hlabels _).symm ▸ hnodup)
      (List.mem_map_of_mem (f := fun d : Dataset => (d.label, percentOf d.total s.grandTotal)) hd)

/-- The label of the dataset of a value column and a series. A series is shown as its first row
shows it. -/
def nameOf (r : Result) (p : String × String) : String :=
  if r.groupLabels.length ≤ 1 then p.1
  else p.1 ++ " – " ++ ((r.rows.find? fun row => (rowSeries r row).key = p.2).elim "" fun row =>
    (rowSeries r row).display)

theorem exists_row_of_mem_seriesKeys {series : String} (hmore : ¬ r.groupLabels.length ≤ 1)
    (h : series ∈ seriesKeys r) :
    ∃ row ∈ r.rows, (r.rows.find? fun row => (rowSeries r row).key = series) = some row ∧
      (rowSeries r row).key = series := by
  rw [seriesKeys, if_neg hmore, List.mem_eraseDups] at h
  obtain ⟨row, hrow, hkey⟩ := List.mem_map.1 h
  have hsome : (r.rows.find? fun row => (rowSeries r row).key = series).isSome := by
    rw [List.find?_isSome]
    exact ⟨row, hrow, decide_eq_true hkey⟩
  obtain ⟨first, hfirst⟩ := Option.isSome_iff_exists.1 hsome
  have hfound := List.find?_some hfirst
  exact ⟨first, List.mem_of_find?_eq_some hfirst, hfirst, of_decide_eq_true hfound⟩

theorem Dataset.Holds.label_eq_nameOf {keys : List String} {p : String × String} {d : Dataset}
    (h : d.Holds r o keys p.1 p.2) (hp : p.2 ∈ seriesKeys r) : d.label = nameOf r p := by
  unfold nameOf
  split
  · next hone => exact h.label_eq.1 hone
  · next hmore =>
    obtain ⟨row, -, hrow, -⟩ := exists_row_of_mem_seriesKeys hmore hp
    rw [h.label_eq.2 row (Nat.lt_of_not_le hmore) hrow, hrow, Option.elim_some]

theorem labels_seriesOf :
    (seriesOf r o grid).datasets.map (·.label) =
      (r.valueLabels ×ˢ seriesKeys r).map (nameOf r) := by
  have hmem (p : String × String) (hp : p ∈ r.valueLabels ×ˢ seriesKeys r) : p.2 ∈ seriesKeys r :=
    (List.mem_product.1 hp).2
  have hdatasets := (List.forall₂_and_left _ _).2 ⟨hmem, @datasets_seriesOf r o grid⟩
  have hlabels : List.Forall₂ Eq ((r.valueLabels ×ˢ seriesKeys r).map (nameOf r))
      ((seriesOf r o grid).datasets.map (·.label)) := by
    rw [List.forall₂_map_left_iff, List.forall₂_map_right_iff]
    exact hdatasets.imp fun p d h => (h.2.label_eq_nameOf h.1).symm
  rw [List.forall₂_eq_eq_eq] at hlabels
  exact hlabels.symm

/-- A label is taken apart again at its first blank. -/
theorem eq_of_joined_eq {label label' shown shown' : String} (h : ' ' ∉ label.toList)
    (h' : ' ' ∉ label'.toList) (heq : label ++ " – " ++ shown = label' ++ " – " ++ shown') :
    label = label' ∧ shown = shown' := by
  have hlists : label.toList ++ ' ' :: ('–' :: ' ' :: shown.toList) =
      label'.toList ++ ' ' :: ('–' :: ' ' :: shown'.toList) := by
    have htexts := congrArg String.toList heq
    simpa [String.toList_append] using htexts
  -- labels have no blanks, so that the first blank on both sides is the one in front of the dash
  have hpieces := congrArg (List.splitOn ' ') hlists
  rw [List.splitOn_append_cons_self_of_not_mem h, List.splitOn_append_cons_self_of_not_mem h']
    at hpieces
  have hlabel := (List.cons.inj hpieces).1
  rw [hlabel, List.append_cancel_left_eq] at hlists
  refine ⟨String.toList_inj.1 hlabel, String.toList_inj.1 ?_⟩
  simpa using hlists

theorem ShownApart.nodup_labels (h : ShownApart r) :
    ((seriesOf r o grid).datasets.map (·.label)).Nodup := by
  have hseries : (seriesKeys r).Nodup := keys_seriesAxis r ▸ (consistent_seriesAxis r).nodup
  rw [labels_seriesOf]
  refine (h.nodup.product hseries).map_on fun p hp p' hp' heq => ?_
  obtain ⟨hlabel, hkey⟩ := List.mem_product.1 hp
  obtain ⟨hlabel', hkey'⟩ := List.mem_product.1 hp'
  unfold nameOf at heq
  split at heq
  · next hone =>
    rw [seriesKeys, if_pos hone, List.mem_singleton] at hkey hkey'
    exact Prod.ext heq (hkey.trans hkey'.symm)
  · next hmore =>
    obtain ⟨row, hrow, hfirst, hk⟩ := exists_row_of_mem_seriesKeys hmore hkey
    obtain ⟨row', hrow', hfirst', hk'⟩ := exists_row_of_mem_seriesKeys hmore hkey'
    rw [hfirst, hfirst'] at heq
    obtain ⟨hlabels, hshown⟩ := eq_of_joined_eq (h.plain _ hlabel) (h.plain _ hlabel') heq
    refine Prod.ext hlabels ?_
    rw [← hk, ← hk', h.apart row hrow row' hrow' hshown]

theorem display_groupValue {c : Option Cell} (h : ∀ t, c ≠ some (.timestamp t)) :
    (groupValue c none).display = (groupValue c none).key := by
  match c with
  | none | some .null | some (.text _) | some (.int _) | some (.float _) => rfl
  | some (.timestamp t) => exact absurd rfl (h t)

/-- One further group of anything but timestamps shows its keys. -/
theorem ShownApart.of_two_groups (nodup : r.valueLabels.Nodup)
    (plain : ∀ label ∈ r.valueLabels, ' ' ∉ label.toList) (hgroups : r.groupLabels.length ≤ 2)
    (hcells : ∀ row ∈ r.rows, ∀ label ∈ r.groupLabels.drop 1, ∀ t, row.get? label ≠
      some (.timestamp t)) :
    ShownApart r := by
  have hshown (row : Row) (hrow : row ∈ r.rows) : (rowSeries r row).display =
      (rowSeries r row).key := by
    have hcells := hcells row hrow
    have hlength : (r.groupLabels.drop 1).length ≤ 1 := by
      rw [List.length_drop]
      omega
    unfold rowSeries
    match r.groupLabels.drop 1, hlength, hcells with
    | [], _, _ => rfl
    | [label], _, hcells =>
      have hcell := display_groupValue (hcells label List.mem_cons_self)
      simpa [combined, String.intercalate_singleton] using hcell
  refine ⟨nodup, plain, fun row hrow row' hrow' heq => ?_⟩
  rw [← hshown row hrow, ← hshown row' hrow', heq]

end Labels

/-- Totals and shares are listed by label, one for each label; all datasets are found if they are
shown apart. -/
theorem listed_of_formatSeries (r : Result) (o : Options) (w : Timeframe) (maxPoints : Nat)
    (h : WalksInside r w maxPoints) : ∃ s, formatSeries? r o w maxPoints = some s ∧ s.Listed ∧
      s.datasets.map (·.label) = (r.valueLabels ×ˢ seriesKeys r).map (nameOf r) ∧
      (ShownApart r → (s.datasets.map (·.label)).Nodup ∧ s.Found) := by
  obtain ⟨grid, hgrid⟩ := exists_gridPoints? h
  have hlisted : (seriesOf r o grid).Listed := listed_seriesOf
  exact ⟨seriesOf r o grid, congrArg (Option.map _) hgrid, hlisted, labels_seriesOf, fun hshown =>
    ⟨hshown.nodup_labels, hlisted.found hshown.nodup_labels⟩⟩

theorem shownApart_daily : ShownApart daily := by
  refine .of_two_groups (by decide) (by decide) (by decide) fun row hrow label hlabel t => ?_
  obtain rfl : label = "severity" := List.mem_singleton.1 hlabel
  have hcells : daily.rows.map (·.get? "severity") = [some (.int 2), some .null] := by
    rfl
  have hcell : row.get? "severity" ∈ [some (.int 2), some .null] :=
    hcells ▸ List.mem_map_of_mem hrow
  rcases List.mem_pair.1 hcell with hcell | hcell <;> simp [hcell]

theorem listed_of_formatSeries_daily :
    ∃ s, formatSeries? daily {} threeDays 10 = some s ∧ s.Listed ∧ s.Found := by
  obtain ⟨s, hs, hlisted, -, hfound⟩ :=
    listed_of_formatSeries daily {} threeDays 10 walksInside_daily
  exact ⟨s, hs, hlisted, (hfound shownApart_daily).2⟩

/-- A client and its owner; two rows are shown alike, although they are cut in different places. -/
def cutHere : Row :=
  .ofList [("day", .text "mon"), ("client", .text "a / b"), ("owner", .text "c"), ("n", .null)]

def cutThere : Row :=
  .ofList [("day", .text "mon"), ("client", .text "a"), ("owner", .text "b / c"), ("n", .int 2)]

def cutNames : Result where
  chartType := .bar
  rows := [cutHere, cutThere]
  groupLabels := ["day", "client", "owner"]
  valueLabels := ["n"]
  selectLabels := ["day", "client", "owner", "n"]
  timeLabel := none
  timeBucket := none

theorem key_cutThere : (rowSeries cutNames cutThere).key = "a\x1fb / c" := by
  decide +kernel

/-- Both datasets have one label, under which only the second one is found. -/
theorem exists_not_found_cutNames : ∃ s, formatSeries? cutNames {} .unbounded 10 = some s ∧
    s.datasets.map (·.label) = ["n – a / b / c", "n – a / b / c"] ∧
    s.totals.entries.length ≠ s.datasets.length ∧ ¬ s.Found := by
  have hlabels : (seriesOf cutNames {} []).datasets.map (·.label) =
      ["n – a / b / c", "n – a / b / c"] := by
    rw [labels_seriesOf]
    decide +kernel
  have hpairs : cutNames.valueLabels ×ˢ seriesKeys cutNames =
      [("n", "a / b\x1fc"), ("n", "a\x1fb / c")] := by
    decide +kernel
  have hlisted := @listed_seriesOf cutNames {} []
  have hdatasets := @datasets_seriesOf cutNames {} []
  refine ⟨seriesOf cutNames {} [], rfl, hlabels, ?_, fun hfound => ?_⟩
  · rw [ne_eq, hlisted.length_totals, hlabels]
    decide
  rw [hpairs] at hdatasets
  obtain ⟨d, later, hd, hlater, heq⟩ := List.forall₂_cons_left_iff.1 hdatasets
  obtain ⟨d', rest, hd', hrest, rfl⟩ := List.forall₂_cons_left_iff.1 hlater
  obtain rfl := List.forall₂_nil_left_iff.1 hrest
  have hnone : d.total = none := by
    refine hd.total_eq_none.2 fun row hrow hkey => ?_
    rcases List.mem_pair.1 hrow with rfl | rfl
    · rfl
    · rw [key_cutThere] at hkey
      exact absurd hkey (by decide)
  have hsome : d'.total ≠ none := by
    intro hnone'
    have hcell := hd'.total_eq_none.1 hnone' cutThere (by simp [cutNames]) key_cutThere
    cases hcell
  rw [heq] at hlabels
  obtain ⟨hlabel, hlabel'⟩ : d.label = "n – a / b / c" ∧ d'.label = "n – a / b / c" := by
    simpa using hlabels
  have hlast : (seriesOf cutNames {} []).totals.get? d.label = some d'.total := by
    rw [hlisted.totals, heq]
    simp [hlabel, hlabel']
  have hfirst := (hfound d (heq ▸ List.mem_cons_self)).1
  rw [hlast, Option.some.injEq] at hfirst
  exact hsome (hfirst.trans hnone)

end Payload

end IncidentBoard
