import IncidentBoard.Payload.Table
import IncidentBoard.Proofs.Payload.Lookup
import IncidentBoard.Proofs.Text.ByteOrder
import Mathlib.Data.List.Induction

/-! The cells of a result in its table. What is missing, what is null and what is zero stay apart,
and columns that nothing declares are told by their cells. -/
namespace IncidentBoard

namespace Keyed

variable {α : Type} {f : String → α} {cs : List String} {c : String}

theorem mem_keys_ofList_map : c ∈ (ofList (cs.map fun c => (c, f c))).keys ↔ c ∈ cs := by
  rw [mem_keys_ofList, List.map_map]
  simp [Function.comp_def]

/-- What depends on the key alone is found under it, however often the list has it. -/
theorem get?_ofList_map_of_mem (h : c ∈ cs) :
    (ofList (cs.map fun c => (c, f c))).get? c = some (f c) := by
  have hfound : (cs.reverse.find? fun x => x = c).isSome := by
    rw [List.find?_isSome]
    exact ⟨c, List.mem_reverse.2 h, decide_eq_true rfl⟩
  obtain ⟨x, hx⟩ := Option.isSome_iff_exists.1 hfound
  have hxc : x = c := by simpa using List.find?_some hx
  have hlast := get?_ofList_map (k := c) cs id f
  simp only [id_eq, hx, Option.map_some] at hlast
  rw [hlast, hxc]

end Keyed

namespace Payload

open Store Widget

section Columns

variable {l : List String} {k : String} {rows : List Row} {seen : Bool}

/-- The members of a list, each where it comes first. -/
def firsts (l : List String) : List String :=
  l.foldl (fun seen key => if seen.contains key then seen else seen ++ [key]) []

theorem seenKeys_eq (rows : List Row) : seenKeys rows = firsts (rows.flatMap Keyed.keys) := rfl

theorem firsts_concat (l : List String) (k : String) :
    firsts (l ++ [k]) = if k ∈ firsts l then firsts l else firsts l ++ [k] := by
  simp [firsts]

theorem firsts_eq_eraseDups (l : List String) : firsts l = l.eraseDups := by
  induction l using List.reverseRecOn with
  | nil => rfl
  | append_singleton l x ih => simp only [firsts_concat, eraseDups_concat, ih, List.mem_eraseDups]

theorem mem_firsts : k ∈ firsts l ↔ k ∈ l := by
  rw [firsts_eq_eraseDups, List.mem_eraseDups]

theorem pairwise_firsts (l : List String) :
    (firsts l).Pairwise fun a b => l.idxOf a < l.idxOf b := by
  rw [firsts_eq_eraseDups]
  exact pairwise_idxOf_eraseDups l

/-- A number somewhere, and nothing but numbers and nulls. -/
def HoldsNumbers (rows : List Row) (key : String) : Prop :=
  (∃ row ∈ rows, ∃ x, HoldsAt key row x) ∧
    ∀ row ∈ rows, ∀ cell, row.get? key = some cell → cell = .null ∨ ∃ x, cell.Holds x

theorem holdsValues_eq_true : holdsValues k rows seen = true ↔
    (seen ∨ ∃ row ∈ rows, (number? (row.get? k)).isSome) ∧
      ∀ row ∈ rows, ∀ cell, row.get? k = some cell → cell.isNull ∨ cell.number?.isSome := by
  induction rows generalizing seen with
  | nil => simp [holdsValues]
  | cons row rest ih =>
    rw [holdsValues, List.forall_mem_cons]
    simp only [List.exists_mem_cons_iff]
    cases hcell : row.get? k with
    | none => simp [ih, number?]
    | some cell =>
      by_cases hnull : cell.isNull
      · have hnone : cell.number? = none := by
          cases cell <;> first | rfl | cases hnull
        simp [ih, hnull, number?, hnone]
      · by_cases hnumber : cell.number?.isSome
        · simp [ih, hnull, number?, hnumber]
        · simp [hnull, hnumber]

theorem isNull_eq_true {cell : Cell} : cell.isNull = true ↔ cell = .null := by
  cases cell <;> simp [Cell.isNull]

theorem holdsValues_iff : holdsValues k rows false = true ↔ HoldsNumbers rows k := by
  simp only [holdsValues_eq_true, HoldsNumbers, Option.isSome_iff_exists, number?_get?_eq_some,
    Cell.number?_eq_some, isNull_eq_true, Bool.false_eq_true, false_or]

end Columns

/-- Columns that nothing declares: each key of a row is one column, in its place by where it comes
first, row after row and within a row in the order of bytes; value columns are those that hold
numbers. -/
structure Detects (rows : List Row) (groups values : List String) : Prop where
  ascending : ∀ row ∈ rows, row.keys.Pairwise fun a b => Text.bytes a < Text.bytes b
  mem_iff : ∀ c, c ∈ groups ++ values ↔ ∃ row ∈ rows, c ∈ row.keys
  nodup : (groups ++ values).Nodup
  groups_ordered : groups.Pairwise fun a b =>
    (rows.flatMap Keyed.keys).idxOf a < (rows.flatMap Keyed.keys).idxOf b
  values_ordered : values.Pairwise fun a b =>
    (rows.flatMap Keyed.keys).idxOf a < (rows.flatMap Keyed.keys).idxOf b
  mem_values_iff : ∀ c, c ∈ values ↔ HoldsNumbers rows c

section Detection

variable {rows : List Row} {c : String}

theorem HoldsNumbers.mem_seenKeys (h : HoldsNumbers rows c) : c ∈ seenKeys rows := by
  obtain ⟨row, hrow, x, cell, hcell, -⟩ := h.1
  rw [seenKeys_eq, mem_firsts, List.mem_flatMap]
  refine ⟨row, hrow, ?_⟩
  by_contra hc
  have hnone : row.get? c = none := Keyed.lookup_eq_none_iff_notMem.2 hc
  rw [hnone] at hcell
  cases hcell

/-- All keys of the rows, parted by what they hold. -/
theorem detects_partition (rows : List Row) :
    Detects rows ((seenKeys rows).filter fun c => !holdsValues c rows false)
      ((seenKeys rows).filter fun c => holdsValues c rows false) := by
  have hordered := pairwise_firsts (rows.flatMap Keyed.keys)
  have hperm := List.filter_append_perm (fun c => !holdsValues c rows false) (seenKeys rows)
  simp only [Bool.not_not] at hperm
  have hnodup : (seenKeys rows).Nodup := hordered.imp fun h heq => by
    rw [heq] at h
    exact Nat.lt_irrefl _ h
  constructor
  case ascending =>
    intro row _
    exact List.pairwise_map.2 (row.ascending.imp Text.bytes_lt_bytes)
  case mem_iff =>
    intro c
    rw [hperm.mem_iff, seenKeys_eq, mem_firsts, List.mem_flatMap]
  case nodup => exact hperm.nodup_iff.2 hnodup
  case groups_ordered => exact hordered.filter _
  case values_ordered => exact hordered.filter _
  case mem_values_iff =>
    intro c
    rw [List.mem_filter, holdsValues_iff]
    exact ⟨And.right, fun h => ⟨h.mem_seenKeys, h⟩⟩

end Detection

/-- The cell of a value column: nothing is known of a missing number or without a total, and every
number has no share in a total of zero. -/
structure TableCell.Shows (value total : Option Float) (c : TableCell) : Prop where
  value_eq : c.value = value
  display_eq : c.display = numberText value
  unknown : value = none ∨ total = none → c.share = none ∧ c.percentage = "--"
  zero : ∀ x t, value = some x → total = some t → t == 0 → c.share = some 0 ∧ c.percentage = "0.0%"
  part : ∀ x t, value = some x → total = some t → ¬ t == 0 →
    c.share = percentOf (some x) (some t) ∧ c.percentage = percentText c.share

/-- A row has a text for each group column and a cell for each value column, and nothing else. -/
structure TableRow.Shows (r : Result) (t : Table) (row : Row) (shown : TableRow) : Prop where
  mem_groups : ∀ c, c ∈ shown.groups.keys ↔ c ∈ t.groupColumns
  mem_values : ∀ c, c ∈ shown.values.keys ↔ c ∈ t.valueColumns
  group : ∀ c ∈ t.groupColumns,
    shown.groups.get? c = some (groupValue (row.get? c) (bucketOf r c)).display
  value : ∀ c ∈ t.valueColumns, ∃ cell value, shown.values.get? c = some cell ∧
    (∀ x, value = some x ↔ HoldsAt c row x) ∧ cell.Shows value (t.totals.get? c).join

/-- A total is nothing only if the column has no number; otherwise its numbers are added up in the
order of rows. -/
structure Table.Accounts (r : Result) (t : Table) : Prop where
  rows : List.Forall₂ (TableRow.Shows r t) r.rows t.rows
  mem_totals : ∀ c, c ∈ t.totals.keys ↔ c ∈ t.valueColumns
  total : ∀ c ∈ t.valueColumns, ∃ total, t.totals.get? c = some total ∧
    (total = none ↔ ∀ row ∈ r.rows, ∀ x, ¬ HoldsAt c row x) ∧
    ∀ x, total = some x → ∃ xs, Picks (HoldsAt c) r.rows xs ∧ x = addUp xs
  declared : r.groupLabels ≠ [] ∨ r.valueLabels ≠ [] →
    t.groupColumns = r.groupLabels ∧ t.valueColumns = r.valueLabels
  detected : r.groupLabels = [] → r.valueLabels = [] → Detects r.rows t.groupColumns t.valueColumns

section Table

variable {r : Result} {o : Options} {row : Row} {c : String}

theorem roundEven_zero (den : Nat) : Decimal.roundEven 0 den = 0 := by
  simp [Decimal.roundEven, Nat.pos_iff_ne_zero, or_iff_not_imp_left, eq_comm]

theorem percentText_zero : percentText (some 0) = "0.0%" := by
  have h : Decimal.Binary.ofFloat? 0 = some ⟨false, 0, -1074⟩ := rfl
  rw [percentText, Option.bind_some, h]
  simp only [Decimal.Binary.fixed, Nat.zero_mul, roundEven_zero]
  rfl

theorem tableCell_shows (value total : Option Float) :
    (tableCell value total).Shows value total := by
  constructor
  case value_eq => rfl
  case display_eq => rfl
  case unknown =>
    rintro (rfl | rfl)
    · cases total <;> exact ⟨rfl, rfl⟩
    · cases value <;> exact ⟨rfl, rfl⟩
  case zero =>
    rintro x t rfl rfl ht
    simp [tableCell, ht, percentText_zero]
  case part =>
    rintro x t rfl rfl ht
    simp [tableCell, ht]

theorem columnTotal_eq_none :
    columnTotal r.rows c = none ↔ ∀ row ∈ r.rows, ∀ x, ¬ HoldsAt c row x := by
  simp only [columnTotal, total_eq_none, List.filterMap_eq_nil_iff, number?_get?_eq_none]

theorem totals_get? (h : c ∈ (tableOf r o).valueColumns) :
    (tableOf r o).totals.get? c = some (columnTotal r.rows c) :=
  Keyed.get?_ofList_map_of_mem h

theorem groupColumns_eq : (tableOf r o).groupColumns = (columnsOf r).1 := rfl

theorem valueColumns_eq : (tableOf r o).valueColumns = (columnsOf r).2 := rfl

theorem columnsOf_declared (h : r.groupLabels ≠ [] ∨ r.valueLabels ≠ []) :
    columnsOf r = (r.groupLabels, r.valueLabels) := by
  rw [columnsOf, if_pos]
  simpa using h

theorem columnsOf_undeclared (hgroups : r.groupLabels = []) (hvalues : r.valueLabels = []) :
    columnsOf r = ((seenKeys r.rows).filter fun c => !holdsValues c r.rows false,
      (seenKeys r.rows).filter fun c => holdsValues c r.rows false) := by
  rw [columnsOf, if_neg (by simp [hgroups, hvalues]), List.partition_eq_filter_filter]
  rfl

theorem tableRow_shows (r : Result) (o : Options) (row : Row) : TableRow.Shows r (tableOf r o) row
    (tableRow r (tableOf r o).groupColumns (tableOf r o).valueColumns (tableOf r o).totals
      row) where
  mem_groups _ := Keyed.mem_keys_ofList_map
  mem_values _ := Keyed.mem_keys_ofList_map
  group _ hc := Keyed.get?_ofList_map_of_mem hc
  value _ hc := ⟨_, _, Keyed.get?_ofList_map_of_mem hc, fun _ => number?_get?_eq_some,
    tableCell_shows _ _⟩

/-- Tables account for every row and column. -/
theorem accounts_of_tableOf (r : Result) (o : Options) : (tableOf r o).Accounts r := by
  constructor
  case rows =>
    change List.Forall₂ _ r.rows (r.rows.map (tableRow r _ _ _))
    rw [List.forall₂_map_right_iff, List.forall₂_same]
    exact fun row _ => tableRow_shows r o row
  case mem_totals => exact fun c => Keyed.mem_keys_ofList_map
  case total =>
    intro c hc
    exact ⟨_, totals_get? hc, columnTotal_eq_none,
      fun x hx => ⟨_, picks_numbers.2 rfl, total_eq_some hx⟩⟩
  case declared =>
    intro h
    rw [groupColumns_eq, valueColumns_eq, columnsOf_declared h]
    exact ⟨rfl, rfl⟩
  case detected =>
    intro hgroups hvalues
    rw [groupColumns_eq, valueColumns_eq, columnsOf_undeclared hgroups hvalues]
    exact detects_partition r.rows

theorem Table.Accounts.totals_eq {t : Table} (h : t.Accounts r) (hc : c ∈ t.valueColumns) :
    t.totals.get? c = some (Payload.total (numbers c r.rows)) := by
  obtain ⟨x, hx, hnone, hsome⟩ := h.total c hc
  rw [hx]
  cases x with
  | none =>
    have hnumbers : numbers c r.rows = [] := numbers_eq_nil.2 fun row hrow =>
      number?_get?_eq_none.2 (hnone.1 rfl row hrow)
    rw [hnumbers]
    rfl
  | some x =>
    obtain ⟨xs, hxs, rfl⟩ := hsome x rfl
    obtain rfl := picks_numbers.1 hxs
    rw [total_eq, if_neg]
    intro hempty
    have hnumbers := numbers_eq_nil.1 (List.isEmpty_iff.1 hempty)
    cases hnone.2 fun row hrow => number?_get?_eq_none.1 (hnumbers row hrow)

theorem TableRow.Shows.exists_cell {t : Table} {shown : TableRow} (h : TableRow.Shows r t row shown)
    (hc : c ∈ t.valueColumns) : ∃ cell, shown.values.get? c = some cell ∧
      cell.Shows (number? (row.get? c)) (t.totals.get? c).join := by
  obtain ⟨cell, value, hcell, hvalue, hshows⟩ := h.value c hc
  obtain rfl : value = number? (row.get? c) :=
    Option.ext fun x => (hvalue x).trans number?_get?_eq_some.symm
  exact ⟨cell, hcell, hshows⟩

/-- A column of texts that a row lacks, one of numbers with a null, one of spelled numbers, and one
that holds no finite number. -/
def sparse : Result where
  chartType := .table
  rows := [.ofList [("name", .text "x"), ("n", .int 2)],
    .ofList [("share", .text " 2.5 "), ("n", .null)],
    .ofList [("name", .null), ("rate", .float (0 / 0)), ("share", .int 0)]]
  groupLabels := []
  valueLabels := []
  selectLabels := []
  timeLabel := none
  timeBucket := none

/-- Columns that are declared: one with a total of zero and a row without a number, and one with no
number at all. -/
def rated : Result where
  chartType := .table
  rows := [.ofList [("name", .text "x"), ("n", .text "-0.0"), ("rate", .float (0 / 0))],
    .ofList [("name", .text "y"), ("n", .text "none"), ("rate", .null)]]
  groupLabels := ["name"]
  valueLabels := ["n", "rate"]
  selectLabels := ["name", "n", "rate"]
  timeLabel := none
  timeBucket := none

theorem accounts_of_tableOf_sparse : Detects sparse.rows ["name", "rate"] ["n", "share"] ∧
    (tableOf sparse {}).totals.get? "n" = some (some 2) ∧
    (tableOf sparse {}).totals.get? "share" = some (some 2.5) ∧
    (tableOf rated {}).totals.get? "n" = some (some 0) ∧
    (tableOf rated {}).totals.get? "rate" = some none ∧
    (tableOf rated {}).rows.map (fun shown => ["n", "rate"].map fun c =>
        (shown.values.get? c).map fun cell => (cell.share, cell.percentage)) =
      [[some (some 0, "0.0%"), some (none, "--")], [some (none, "--"), some (none, "--")]] := by
  have hcolumns : columnsOf sparse = (["name", "rate"], ["n", "share"]) := by
    decide +kernel
  have hs := accounts_of_tableOf sparse {}
  have hd := accounts_of_tableOf rated {}
  have hdetects := hs.detected rfl rfl
  have hn : "n" ∈ (tableOf sparse {}).valueColumns := by simp [valueColumns_eq, hcolumns]
  have hshare : "share" ∈ (tableOf sparse {}).valueColumns := by simp [valueColumns_eq, hcolumns]
  rw [groupColumns_eq, valueColumns_eq, hcolumns] at hdetects
  refine ⟨hdetects, (hs.totals_eq hn).trans (by decide +kernel),
    (hs.totals_eq hshare).trans (by decide +kernel), ?_⟩
  generalize tableOf rated {} = t at hd
  have hvalues : t.valueColumns = ["n", "rate"] := (hd.declared (.inr nofun)).2
  have hn : "n" ∈ t.valueColumns := by simp [hvalues]
  have hrate : "rate" ∈ t.valueColumns := by simp [hvalues]
  have zero : t.totals.get? "n" = some (some 0) := (hd.totals_eq hn).trans (by decide +kernel)
  have nothing : t.totals.get? "rate" = some none := (hd.totals_eq hrate).trans (by decide +kernel)
  refine ⟨zero, nothing, ?_⟩
  obtain ⟨x, _, hx, hlater, hrows⟩ := List.forall₂_cons_left_iff.1 hd.rows
  obtain ⟨y, _, hy, hnoMore, rfl⟩ := List.forall₂_cons_left_iff.1 hlater
  obtain rfl := List.forall₂_nil_left_iff.1 hnoMore
  obtain ⟨xn, hxn, showsXn⟩ := hx.exists_cell hn
  obtain ⟨xr, hxr, showsXr⟩ := hx.exists_cell hrate
  obtain ⟨yn, hyn, showsYn⟩ := hy.exists_cell hn
  obtain ⟨yr, hyr, showsYr⟩ := hy.exists_cell hrate
  rw [zero] at showsXn showsYn
  rw [nothing] at showsXr showsYr
  have shareXn := showsXn.zero (-0.0) 0 (by decide +kernel) rfl (by decide +kernel)
  have shareXr := showsXr.unknown (.inr rfl)
  have shareYn := showsYn.unknown (.inl (by decide +kernel))
  have shareYr := showsYr.unknown (.inr rfl)
  simp only [hrows, List.map_cons, List.map_nil, hxn, hxr, hyn, hyr, Option.map_some, shareXn,
    shareXr, shareYn, shareYr]

end Table

end Payload

end IncidentBoard
