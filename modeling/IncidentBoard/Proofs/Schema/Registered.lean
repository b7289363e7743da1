import IncidentBoard.Schema.Incidents

/-! Every name that resolves is that of a registered column. -/
namespace IncidentBoard.Schema

open Widget

/-- The registered columns, table by table. -/
def columns : List Column :=
  tables.flatMap fun t => t.columns.map fun (name, kind) => ⟨t.name, name, kind⟩

/-- The registered columns and the two of the link table. -/
def storedColumns : List (String × String) :=
  columns.map (fun c => (c.table, c.name)) ++
    [(linkTable, linkRowColumn), (linkTable, linkCaseColumn)]

theorem resolve_ok {table column : String} {c : Column} (h : resolve table column = .ok c) :
    c ∈ columns ∧ c.table = table := by
  unfold resolve findTable at h
  cases ht : tables.find? (·.name == table) with
  | none => simp [ht, bind, Except.bind] at h
  | some t =>
    cases hc : t.column? column with
    | none => simp [ht, hc, bind, Except.bind] at h
    | some c' =>
      obtain rfl : c' = c := by simpa [ht, hc, bind, Except.bind, pure, Except.pure] using h
      obtain ⟨kind, hk, rfl⟩ := Option.map_eq_some_iff.1 hc
      obtain ⟨l, r, hl, -⟩ := List.lookup_eq_some_iff.1 hk
      have hmem : (column, kind) ∈ t.columns := by rw [hl]; simp
      have hname : t.name = table := by simpa using List.find?_some ht
      exact ⟨List.mem_flatMap.2 ⟨t, List.mem_of_find?_eq_some ht, List.mem_map.2 ⟨_, hmem, rfl⟩⟩,
        hname⟩

theorem mem_columns_of_resolve {table column : String} {c : Column}
    (h : resolve table column = .ok c) :
    c ∈ columns := (resolve_ok h).1

theorem mem_columns_of_resolveReference {reference : String} {c : Column}
    (h : resolveReference reference = .ok c) : c ∈ columns := by
  unfold resolveReference at h
  split at h
  · exact mem_columns_of_resolve h
  · cases h

theorem defaultTimeColumn_mem_columns : defaultTimeColumn ∈ columns := by
  decide

end IncidentBoard.Schema
