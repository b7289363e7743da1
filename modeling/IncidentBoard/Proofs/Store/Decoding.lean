import IncidentBoard.Proofs.Lists
import IncidentBoard.Proofs.Plan.Outline
import IncidentBoard.Proofs.Store.Cells

/-! From the raw cells that a store finds to the rows of a result. -/
namespace IncidentBoard

open Sql Plan Widget Access

namespace Store

section Traversal

variable {ε α β : Type} {f : α → Except ε β} {xs : List α}

theorem forall₂_of_mapM_ok {ys : List β} (h : xs.mapM f = .ok ys) :
    List.Forall₂ (fun x y => f x = .ok y) xs ys := by
  induction xs generalizing ys with
  | nil =>
    cases h
    exact .nil
  | cons x xs ih =>
    rw [List.mapM_cons] at h
    obtain ⟨y, hx, h⟩ := ok_of_bind h
    obtain ⟨zs, hxs, h⟩ := ok_of_bind h
    cases h
    exact .cons hx (ih hxs)

/-- A traversal stops at the first entry that has no result. -/
theorem exists_first_of_mapM_error {e : ε} (h : xs.mapM f = .error e) : ∃ before x after,
    xs = before ++ x :: after ∧ (∀ b ∈ before, ∃ y, f b = .ok y) ∧ f x = .error e := by
  induction xs with
  | nil => cases h
  | cons x xs ih =>
    rw [List.mapM_cons] at h
    cases hx : f x with
    | error e' =>
      rw [hx] at h
      cases h
      exact ⟨[], x, xs, rfl, by simp, hx⟩
    | ok y =>
      cases hxs : xs.mapM f with
      | ok ys =>
        rw [hx, hxs] at h
        cases h
      | error e' =>
        rw [hx, hxs] at h
        cases h
        obtain ⟨before, z, after, rfl, hbefore, hz⟩ := ih hxs
        exact ⟨x :: before, z, after, rfl, List.forall_mem_cons.2 ⟨⟨y, hx⟩, hbefore⟩, hz⟩

end Traversal

/-- The raw cell of an output has a value. -/
def Readable (x : Select × RawCell) : Prop := ∃ cell, Decodes x.1.kind x.2 cell

section Cells

def decodeCell (x : Select × RawCell) : Except StoreError (String × Cell) :=
  match x.2.decode x.1.kind with
  | .error fault => .error (.undecodable x.1.label fault.message)
  | .ok cell => .ok (x.1.label, cell)

theorem decodeCell_ok {x : Select × RawCell} {y : String × Cell} (h : decodeCell x = .ok y) :
    ∃ cell, Decodes x.1.kind x.2 cell ∧ y = (x.1.label, cell) := by
  unfold decodeCell at h
  split at h
  · cases h
  · next cell hcell =>
    cases h
    exact ⟨cell, decode_eq_ok.1 hcell, rfl⟩

theorem decodeCell_error {x : Select × RawCell} {e : StoreError} (h : decodeCell x = .error e) :
    ∃ fault, Faults x.2 fault ∧ e = .undecodable x.1.label fault.message := by
  unfold decodeCell at h
  split at h
  · next fault hfault =>
    cases h
    exact ⟨fault, decode_eq_error.1 hfault, rfl⟩
  · cases h

theorem decodeCells_eq {selects : List Select} {row : List RawCell}
    (h : row.length = selects.length) :
    decodeCells (selects.map outputColumn) row = (selects.zip row).mapM decodeCell := by
  induction selects generalizing row with
  | nil => rfl
  | cons s selects ih =>
    cases row with
    | nil => cases h
    | cons c row =>
      have hrest := ih (Nat.succ.inj h)
      simp only [List.map_cons, decodeCells, List.head?_cons, Option.getD_some, List.tail_cons,
        List.zip_cons_cons, List.mapM_cons, decodeCell, outputColumn, hrest]
      cases c.decode s.kind <;> rfl

theorem decodeRows_eq (columns : List OutputColumn) (raw : List (List RawCell)) :
    decodeRows columns raw = raw.mapM (decodeRow columns) := by
  induction raw with
  | nil => rfl
  | cons row raw ih => rw [decodeRows, ih, List.mapM_cons]

end Cells

section Row

variable {selects : List Select} {row : List RawCell}

/-- A row has the value of every cell under the alias of its output, and nothing else. -/
theorem decodeRow_ok (hlabels : (selects.map (·.label)).Nodup)
    (hrow : row.length = selects.length) {r : Row}
    (h : decodeRow (selects.map outputColumn) row = .ok r) :
    (∀ x ∈ selects.zip row, ∃ cell, Decodes x.1.kind x.2 cell ∧ r.get? x.1.label = some cell) ∧
    ∀ key, key ∉ selects.map (·.label) → r.get? key = none := by
  unfold decodeRow at h
  rw [decodeCells_eq hrow] at h
  cases hcells : (selects.zip row).mapM decodeCell with
  | error e =>
    rw [hcells] at h
    cases h
  | ok cells =>
    rw [hcells] at h
    cases h
    have hall := forall₂_of_mapM_ok hcells
    have hzip : (selects.zip row).map (·.1.label) = cells.map (·.1) := by
      rw [← List.forall₂_eq_eq_eq, List.forall₂_map_left_iff, List.forall₂_map_right_iff]
      refine hall.imp fun x y hxy => ?_
      obtain ⟨cell, -, rfl⟩ := decodeCell_ok hxy
      rfl
    have hkeys : selects.map (·.label) = cells.map (·.1) := by
      have hfst := congrArg (List.map Select.label) (List.map_fst_zip (Nat.le_of_eq hrow.symm))
      rw [List.map_map] at hfst
      exact hfst.symm.trans hzip
    rw [hkeys] at hlabels ⊢
    refine ⟨fun x hx => ?_, fun key hkey => Keyed.get?_ofList_of_notMem hkey⟩
    obtain ⟨j, hj⟩ := List.mem_iff_getElem?.1 hx
    obtain ⟨y, hy, hxy⟩ := exists_getElem?_of_forall₂ hall hj
    obtain ⟨cell, hcell, rfl⟩ := decodeCell_ok hxy
    exact ⟨cell, hcell, Keyed.get?_ofList_of_mem hlabels (List.mem_of_getElem? hy)⟩

/-- The first cell without a value stops a row. -/
theorem decodeRow_error (hrow : row.length = selects.length) {e : StoreError}
    (h : decodeRow (selects.map outputColumn) row = .error e) :
    ∃ before x after fault, selects.zip row = before ++ x :: after ∧ (∀ b ∈ before, Readable b) ∧
      Faults x.2 fault ∧ e = .undecodable x.1.label fault.message := by
  unfold decodeRow at h
  rw [decodeCells_eq hrow] at h
  cases hcells : (selects.zip row).mapM decodeCell with
  | ok cells =>
    rw [hcells] at h
    cases h
  | error e' =>
    rw [hcells] at h
    cases h
    obtain ⟨before, x, after, hsplit, hbefore, hx⟩ := exists_first_of_mapM_error hcells
    obtain ⟨fault, hfault, rfl⟩ := decodeCell_error hx
    refine ⟨before, x, after, fault, hsplit, fun b hb => ?_, hfault, rfl⟩
    obtain ⟨y, hy⟩ := hbefore b hb
    obtain ⟨cell, hcell, -⟩ := decodeCell_ok hy
    exact ⟨cell, hcell⟩

end Row

/-- The raw cell in row `i` and column `j`, with the output that it belongs to. -/
def cellAt? (selects : List Select) (raw : List (List RawCell)) (i j : Nat) :
    Option (Select × RawCell) :=
  raw[i]?.bind fun row => (selects.zip row)[j]?

/-- Rows hold the values of raw cells: row `i` has that of its cell `j` under the alias of output
`j`, and has nothing else. -/
structure Tabulates (selects : List Select) (raw : List (List RawCell)) (rows : List Row) :
    Prop where
  length : rows.length = raw.length
  cells : ∀ i row, rows[i]? = some row → ∀ j s, selects[j]? = some s → ∃ c cell,
    cellAt? selects raw i j = some (s, c) ∧ Decodes s.kind c cell ∧ row.get? s.label = some cell
  others : ∀ row ∈ rows, ∀ key, key ∉ selects.map (·.label) → row.get? key = none

/-- Cell `j` of row `i` has no value, and is the first such cell, row by row. -/
structure FirstFault (selects : List Select) (raw : List (List RawCell)) (i j : Nat) (s : Select)
    (fault : CellFault) : Prop where
  fault : ∃ c, cellAt? selects raw i j = some (s, c) ∧ Faults c fault
  earlier : ∀ i' j', i' < i ∨ i' = i ∧ j' < j → ∀ x, cellAt? selects raw i' j' = some x → Readable x

section Table

variable {selects : List Select} {raw : List (List RawCell)}

theorem cellAt?_eq_some {i j : Nat} {row : List RawCell} {s : Select} {c : RawCell}
    (hi : raw[i]? = some row) :
    cellAt? selects raw i j = some (s, c) ↔ selects[j]? = some s ∧ row[j]? = some c := by
  rw [cellAt?, hi, Option.bind_some, List.getElem?_zip_eq_some]

theorem Tabulates.readable {rows : List Row} (h : Tabulates selects raw rows) {i j : Nat}
    {x : Select × RawCell} (hx : cellAt? selects raw i j = some x) : Readable x := by
  obtain ⟨s, c⟩ := x
  obtain ⟨row, hrow, -⟩ := Option.bind_eq_some_iff.1 hx
  have hi : i < rows.length := by
    rw [h.length]
    exact (List.getElem?_eq_some_iff.1 hrow).1
  have hs := ((cellAt?_eq_some hrow).1 hx).1
  obtain ⟨c', cell, hc, hcell, -⟩ := h.cells i _ (List.getElem?_eq_getElem hi) j s hs
  rw [hx] at hc
  cases hc
  exact ⟨cell, hcell⟩

/-- What a cell becomes is found in its row. -/
theorem Tabulates.get? {rows : List Row} (h : Tabulates selects raw rows) {i j : Nat} {row : Row}
    {s : Select} {c : RawCell} {cell : Cell} {label : String} {kind : Option ColumnKind}
    (hrow : rows[i]? = some row) (hc : cellAt? selects raw i j = some (s, c))
    (hs : outputColumn s = ⟨label, kind⟩) (hcell : Decodes kind c cell) :
    row.get? label = some cell := by
  cases hs
  obtain ⟨r, hr, -⟩ := Option.bind_eq_some_iff.1 hc
  obtain ⟨c', cell', hc', hcell', hget⟩ := h.cells i row hrow j s ((cellAt?_eq_some hr).1 hc).1
  rw [hc] at hc'
  cases hc'
  rw [hget, hcell.unique hcell']

theorem FirstFault.not_readable {i j : Nat} {s : Select} {fault : CellFault}
    (h : FirstFault selects raw i j s fault) :
    ∃ x, cellAt? selects raw i j = some x ∧ ¬ Readable x := by
  obtain ⟨c, hc, hfault⟩ := h.fault
  exact ⟨_, hc, fun ⟨_, hcell⟩ => hfault.not_decodes hcell⟩

theorem FirstFault.not_all {i j : Nat} {s : Select} {fault : CellFault}
    (h : FirstFault selects raw i j s fault) :
    ¬ ∀ i j x, cellAt? selects raw i j = some x → Readable x := fun hall =>
  let ⟨x, hx, hnot⟩ := h.not_readable
  hnot (hall i j x hx)

/-- There is one first cell without a value. -/
theorem FirstFault.unique {i j i' j' : Nat} {s s' : Select} {fault fault' : CellFault}
    (h : FirstFault selects raw i j s fault) (h' : FirstFault selects raw i' j' s' fault') :
    s = s' ∧ fault = fault' := by
  obtain ⟨x, hx, hnot⟩ := h.not_readable
  obtain ⟨x', hx', hnot'⟩ := h'.not_readable
  have hle : ¬ (i < i' ∨ i = i' ∧ j < j') := fun hlt => hnot (h'.earlier i j hlt x hx)
  have hge : ¬ (i' < i ∨ i' = i ∧ j' < j) := fun hlt => hnot' (h.earlier i' j' hlt x' hx')
  obtain ⟨rfl, rfl⟩ : i = i' ∧ j = j' := by omega
  obtain ⟨c, hc, hfault⟩ := h.fault
  obtain ⟨c', hc', hfault'⟩ := h'.fault
  rw [hc] at hc'
  cases hc'
  exact ⟨rfl, hfault.unique hfault'⟩

theorem tabulates_of_decodeRows (hlabels : (selects.map (·.label)).Nodup)
    (hraw : ∀ row ∈ raw, row.length = selects.length) {rows : List Row}
    (h : decodeRows (selects.map outputColumn) raw = .ok rows) : Tabulates selects raw rows := by
  rw [decodeRows_eq] at h
  have hall := forall₂_of_mapM_ok h
  have hback {i : Nat} {r : Row} (hr : rows[i]? = some r) : ∃ row, raw[i]? = some row ∧
      decodeRow (selects.map outputColumn) row = .ok r := exists_getElem?_of_forall₂ hall.flip hr
  refine ⟨hall.length_eq.symm, fun i r hr j s hs => ?_, fun r hr => ?_⟩
  · obtain ⟨row, hrow, hdecode⟩ := hback hr
    have hlength := hraw row (List.mem_of_getElem? hrow)
    have hj : j < row.length := by
      rw [hlength]
      exact (List.getElem?_eq_some_iff.1 hs).1
    have hcell : cellAt? selects raw i j = some (s, row[j]) :=
      (cellAt?_eq_some hrow).2 ⟨hs, List.getElem?_eq_getElem hj⟩
    have hmem : (s, row[j]) ∈ selects.zip row := by
      rw [cellAt?, hrow] at hcell
      exact List.mem_of_getElem? hcell
    obtain ⟨cell, hdecoded, hget⟩ := (decodeRow_ok hlabels hlength hdecode).1 _ hmem
    exact ⟨row[j], cell, hcell, hdecoded, hget⟩
  · obtain ⟨i, hi⟩ := List.mem_iff_getElem?.1 hr
    obtain ⟨row, hrow, hdecode⟩ := hback hi
    exact (decodeRow_ok hlabels (hraw row (List.mem_of_getElem? hrow)) hdecode).2

theorem firstFault_of_decodeRows (hlabels : (selects.map (·.label)).Nodup)
    (hraw : ∀ row ∈ raw, row.length = selects.length) {e : StoreError}
    (h : decodeRows (selects.map outputColumn) raw = .error e) :
    ∃ i j s fault, FirstFault selects raw i j s fault ∧ e = .undecodable s.label fault.message := by
  rw [decodeRows_eq] at h
  obtain ⟨before, row, after, rfl, hbefore, hrow⟩ := exists_first_of_mapM_error h
  obtain ⟨cells, ⟨s, c⟩, rest, fault, hsplit, hcells, hfault, rfl⟩ :=
    decodeRow_error (hraw row (by simp)) hrow
  have hi : (before ++ row :: after)[before.length]? = some row := by simp
  refine ⟨before.length, cells.length, s, fault, ⟨⟨c, ?_, hfault⟩, ?_⟩, rfl⟩
  · rw [cellAt?, hi, Option.bind_some, hsplit]
    simp
  · intro i j hij x hx
    obtain ⟨r, hr, hj⟩ := Option.bind_eq_some_iff.1 hx
    rcases hij with hlt | ⟨rfl, hlt⟩
    · -- a row that came through
      rw [List.getElem?_append_left hlt] at hr
      have hmem := List.mem_of_getElem? hr
      obtain ⟨y, hy⟩ := hbefore r hmem
      have hvalues := (decodeRow_ok hlabels (hraw r (List.mem_append_left _ hmem)) hy).1
      obtain ⟨cell, hcell, -⟩ := hvalues x (List.mem_of_getElem? hj)
      exact ⟨cell, hcell⟩
    · -- a cell of the same row, further left
      rw [hi] at hr
      cases hr
      rw [hsplit, List.getElem?_append_left hlt] at hj
      exact hcells x (List.mem_of_getElem? hj)

end Table

section Run

variable {σ : Type}

/-- The store finds these raw cells for a request, and reads them by the columns of the request. -/
def Finds (store : Store σ) (request : Request) (s : σ) (raw : List (List RawCell)) : Prop :=
  (store.fetch request s).1 = decodeRows request.columns raw

theorem run_eq {store : Store σ} {p : QueryPlan} {s : σ} {raw : List (List RawCell)}
    (h : Finds store (requestOf store.dialect p) s raw) :
    (run store p s).1 = (decodeRows (p.selects.map outputColumn) raw).map (resultOf p) := by
  have hrows : (store.fetch (requestOf store.dialect p) s).1 =
      decodeRows (p.selects.map outputColumn) raw := h
  rw [← hrows]
  rfl

/-- No cell is lost or moved on the way from a store to the result of a plan, whatever scopes
restrict it: if all cells have a value, each is where its row and its output say, and nothing else
is; if not, the first cell without a value is named, and there is no result. -/
theorem cells_of_run {definition : Definition} {w : Timeframe} {maxLimit : Nat} {p : QueryPlan}
    (h : compile definition w maxLimit = .ok p) (scopes : List Scope) (store : Store σ) (s : σ)
    (raw : List (List RawCell)) (hraw : ∀ row ∈ raw, row.length = p.selects.length)
    (hstore : Finds store (requestOf store.dialect (restrict scopes p)) s raw) :
    ((∀ i j x, cellAt? p.selects raw i j = some x → Readable x) →
      ∃ r, (run store (restrict scopes p) s).1 = .ok r ∧ Tabulates p.selects raw r.rows) ∧
    (¬ (∀ i j x, cellAt? p.selects raw i j = some x → Readable x) →
      ∃ i j select fault, FirstFault p.selects raw i j select fault ∧
        (run store (restrict scopes p) s).1 =
          .error (.undecodable select.label fault.message)) := by
  obtain ⟨d, hc⟩ := compiled_of_compile h
  have hlabels : (p.selects.map (·.label)).Nodup := hc.outlined.aliases
  rw [run_eq hstore, restrict_selects]
  cases hrows : decodeRows (p.selects.map outputColumn) raw with
  | ok rows =>
    have htable := tabulates_of_decodeRows hlabels hraw hrows
    exact ⟨fun _ => ⟨_, rfl, htable⟩, fun hnot => absurd (fun i j x hx => htable.readable hx) hnot⟩
  | error e =>
    obtain ⟨i, j, select, fault, hfirst, rfl⟩ := firstFault_of_decodeRows hlabels hraw hrows
    refine ⟨fun hall => ?_, fun _ => ⟨i, j, select, fault, hfirst, rfl⟩⟩
    exact absurd hall hfirst.not_all

/-- A store with prepared answers reads them by the columns of the request. -/
theorem finds_scripted (dialect : Dialect) (exhausted : StoreError) (request : Request)
    (raw : List (List RawCell)) (rest : List Response) (requests : List Request) :
    Finds (scripted dialect exhausted) request ⟨.ok raw :: rest, requests⟩ raw := rfl

/-- Rows of a time, a share and a client: the second of a moment, a second that no calendar has, the
text of a moment, and one of none. -/
def found : List (List RawCell) :=
  [[.int 1709377200, .int 1709377200, .text (Text.bytes "2024-03-02")],
    [.int 9000000000000, .real 50, .null],
    [.text (Text.bytes " 2024-03-02T11:00:00Z"), .null, .text (Text.bytes "café")],
    [.text (Text.bytes "soon"), .real 0.5, .null]]

/-- Rows with any share in the second, and a client in it whose text is cut. -/
def broken (share : RawCell) : List (List RawCell) :=
  [[.int 1709377200, .null, .null], [.null, share, .text [0x68, 0xc3, 0x28]]]

section Sample

variable {time share client : Select}

theorem rows_found {rows : List Row} (h : Tabulates [time, share, client] found rows)
    (htime : outputColumn time = ⟨"alerts_alert_creation_time", some .timestamp⟩)
    (hshare : outputColumn share = ⟨"share", none⟩)
    (hclient : outputColumn client = ⟨"client_name", some .text⟩) :
    rows.map (fun row => ["alerts_alert_creation_time", "share", "client_name"].map row.get?) =
      [[some (.timestamp .marchMorning), some (.int 1709377200), some (.text "2024-03-02")],
        [some (.int 9000000000000), some (.float 50), some .null],
        [some (.timestamp .marchMorning), some .null, some (.text "café")],
        [some (.text "soon"), some (.float 0.5), some .null]] := by
  have hlate (t : Timestamp) : t.epochSeconds ≠ 9000000000000 := by
    have hlast := t.date.le_last
    have hsecond := t.second_lt
    unfold Calendar.lastDay at hlast
    unfold Timestamp.epochSeconds
    omega
  have hmoment : Timestamp.marchMorning.MomentText (Text.trim " 2024-03-02T11:00:00Z".toList) :=
    Timestamp.parse?_eq_some.1 (by decide +kernel)
  have hsoon : ∀ t : Timestamp, ¬ t.MomentText (Text.trim "soon".toList) :=
    Timestamp.parse?_eq_none.1 (by decide +kernel)
  match rows, h.length with
  | [r₀, r₁, r₂, r₃], _ =>
    have time₀ := h.get? (i := 0) (j := 0) rfl rfl htime (.second (t := .marchMorning) rfl rfl rfl)
    have time₁ := h.get? (i := 1) (j := 0) rfl rfl htime (.noSecond rfl hlate)
    have time₂ := h.get? (i := 2) (j := 0) rfl rfl htime (.moment rfl rfl hmoment)
    have time₃ := h.get? (i := 3) (j := 0) rfl rfl htime (.noMoment rfl rfl hsoon)
    have share₀ := h.get? (i := 0) (j := 1) rfl rfl hshare (.int nofun)
    have share₁ := h.get? (i := 1) (j := 1) rfl rfl hshare (.real 50)
    have share₂ := h.get? (i := 2) (j := 1) rfl rfl hshare .null
    have share₃ := h.get? (i := 3) (j := 1) rfl rfl hshare (.real 0.5)
    have client₀ := h.get? (i := 0) (j := 2) rfl rfl hclient (.text nofun rfl)
    have client₁ := h.get? (i := 1) (j := 2) rfl rfl hclient .null
    have client₂ := h.get? (i := 2) (j := 2) rfl rfl hclient (.text nofun rfl)
    have client₃ := h.get? (i := 3) (j := 2) rfl rfl hclient .null
    simp only [List.map_cons, List.map_nil, time₀, time₁, time₂, time₃, share₀, share₁, share₂,
      share₃, client₀, client₁, client₂, client₃]

theorem readable_found {i j : Nat} {x : Select × RawCell}
    (hx : cellAt? [time, share, client] found i j = some x) : Readable x := by
  obtain ⟨row, hrow, hj⟩ := Option.bind_eq_some_iff.1 hx
  have hcell : x.2 ∈ row := (List.of_mem_zip (List.mem_of_getElem? hj)).2
  have hmem : x.2 ∈ found.flatten := List.mem_flatten.2 ⟨row, List.mem_of_getElem? hrow, hcell⟩
  refine (exists_decodes_or_faults _ _).resolve_right ?_
  rintro ⟨fault, hfault⟩
  generalize x.2 = c at hmem hfault
  cases hfault with
  | blob bytes => simp [found] at hmem
  | badText hstops =>
    simp only [found, List.flatten_cons, List.flatten_nil, List.cons_append, List.nil_append,
      List.append_nil, List.mem_cons, RawCell.text.injEq, reduceCtorEq, false_or, List.not_mem_nil,
      or_false] at hmem
    rcases hmem with rfl | rfl | rfl | rfl <;> exact Text.Utf8.not_stopsAt_bytes _ hstops

/-- The first row and the time of the second have a value. -/
theorem readable_broken {raw : RawCell} {i j : Nat} {x : Select × RawCell}
    (hij : i < 1 ∨ i = 1 ∧ j < 1)
    (hx : cellAt? [time, share, client] (broken raw) i j = some x) : Readable x := by
  rcases hij with hi | ⟨rfl, hj⟩
  · obtain rfl : i = 0 := by omega
    match j with
    | 0 =>
      cases hx
      exact (exists_decodes_or_faults _ _).resolve_right nofun
    | 1 | 2 =>
      cases hx
      exact ⟨_, .null⟩
  · obtain rfl : j = 0 := by omega
    cases hx
    exact ⟨_, .null⟩

theorem firstFault_blob :
    FirstFault [time, share, client] (broken (.blob [])) 1 1 share .blob :=
  ⟨⟨_, rfl, .blob _⟩, fun _ _ hij _ hx => readable_broken hij hx⟩

theorem firstFault_cut : FirstFault [time, share, client] (broken .null) 1 2 client
    (.badText ⟨1, some 1⟩) := by
  refine ⟨⟨_, rfl, .badText (Text.Utf8.decode_eq_error.1 rfl)⟩, fun i j hij x hx => ?_⟩
  by_cases hfirst : i < 1 ∨ i = 1 ∧ j < 1
  · exact readable_broken hfirst hx
  · obtain ⟨rfl, rfl⟩ : i = 1 ∧ j = 1 := by omega
    cases hx
    exact ⟨_, .null⟩

end Sample

theorem cells_of_run_severeShare : ∃ p, compile severeShare sinceMarch 10000 = .ok p ∧
    (∃ r, (run (scripted .sqlite (.rejected "")) (restrict [clientScope] p) ⟨[.ok found], []⟩).1 =
        .ok r ∧
      r.rows.map (fun row => ["alerts_alert_creation_time", "share", "client_name"].map row.get?) =
        [[some (.timestamp .marchMorning), some (.int 1709377200), some (.text "2024-03-02")],
          [some (.int 9000000000000), some (.float 50), some .null],
          [some (.timestamp .marchMorning), some .null, some (.text "café")],
          [some (.text "soon"), some (.float 0.5), some .null]]) ∧
    (run (scripted .sqlite (.rejected "")) (restrict [clientScope] p)
      ⟨[.ok (broken .null)], []⟩).1 =
      .error (.undecodable "client_name" "invalid utf-8 sequence of 1 bytes from index 1") ∧
    (run (scripted .sqlite (.rejected "")) (restrict [clientScope] p)
        ⟨[.ok (broken (.blob []))], []⟩).1 =
      .error (.undecodable "share" "binary values are not supported") := by
  have hcompiles : (compile severeShare sinceMarch 10000).map (·.selects.map outputColumn) =
      .ok [⟨"alerts_alert_creation_time", some .timestamp⟩, ⟨"share", none⟩,
        ⟨"client_name", some .text⟩] := by
    decide +kernel
  obtain ⟨p, hp, houtputs⟩ := ok_of_map hcompiles
  obtain ⟨time, _, hselects, htime, houtputs⟩ := List.map_eq_cons_iff.1 houtputs
  obtain ⟨share, _, rfl, hshare, houtputs⟩ := List.map_eq_cons_iff.1 houtputs
  obtain ⟨client, _, rfl, hclient, houtputs⟩ := List.map_eq_cons_iff.1 houtputs
  obtain rfl := List.map_eq_nil_iff.1 houtputs
  have hcells (raw : List (List RawCell)) (hraw : ∀ row ∈ raw, row.length = p.selects.length) :=
    cells_of_run hp [clientScope] _ _ raw hraw
      (finds_scripted .sqlite (.rejected "") _ raw [] [])
  rw [hselects] at hcells
  have hbroken (c : RawCell) : ∀ row ∈ broken c, row.length = 3 := by simp [broken]
  refine ⟨p, hp, ?_, ?_, ?_⟩
  · obtain ⟨r, hr, htable⟩ := (hcells found (by simp [found])).1 fun _ _ _ hx => readable_found hx
    exact ⟨r, hr, rows_found htable htime hshare hclient⟩
  · obtain ⟨i, j, s, fault, hfirst, hr⟩ := (hcells _ (hbroken .null)).2 firstFault_cut.not_all
    obtain ⟨rfl, rfl⟩ := firstFault_cut.unique hfirst
    obtain ⟨hlabel, -⟩ := OutputColumn.mk.inj hclient
    rw [hr, hlabel]
    rfl
  · obtain ⟨i, j, s, fault, hfirst, hr⟩ := (hcells _ (hbroken (.blob []))).2 firstFault_blob.not_all
    obtain ⟨rfl, rfl⟩ := firstFault_blob.unique hfirst
    obtain ⟨hlabel, -⟩ := OutputColumn.mk.inj hshare
    rw [hr, hlabel]
    rfl

end Run

end Store

end IncidentBoard
