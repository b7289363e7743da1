/-! Values by text key, listed in the order of their keys. -/
namespace IncidentBoard

namespace Keyed

/-- Puts a value into an ascending list, in place of what its key had before. -/
def put {α : Type} (key : String) (value : α) : List (String × α) → List (String × α)
  | [] => [(key, value)]
  | (k, v) :: rest =>
    if key < k then (key, value) :: (k, v) :: rest
    else if key = k then (key, value) :: rest
    else (k, v) :: put key value rest

variable {α β : Type} {key : String} {value : α} {l : List (String × α)}

theorem mem_of_mem_put {e : String × α} (h : e ∈ put key value l) : e = (key, value) ∨ e ∈ l := by
  induction l with
  | nil => simpa [put] using h
  | cons p rest ih =>
    obtain ⟨k, v⟩ := p
    simp only [put] at h
    split at h
    · simpa using h
    · split at h
      · rcases List.mem_cons.1 h with h | h
        · exact .inl h
        · exact .inr (List.mem_cons_of_mem _ h)
      · rcases List.mem_cons.1 h with h | h
        · simp [h]
        · rcases ih h with h | h <;> simp [h]

theorem lookup_cons_eq (k : String) (e : String × α) :
    (e :: l).lookup k = if k = e.1 then some e.2 else l.lookup k := by
  rw [List.lookup_cons]
  by_cases hk : k = e.1
  · rw [if_pos hk, beq_iff_eq.2 hk]
  · rw [if_neg hk, beq_eq_false_iff_ne.2 hk]

theorem lookup_eq_none_iff_notMem {k : String} : l.lookup k = none ↔ k ∉ l.map (·.1) := by
  simp only [List.lookup_eq_none_iff, bne_iff_ne, ne_eq, List.mem_map, not_exists, not_and]
  exact ⟨fun h e he hk => h e he hk.symm, fun h e he hk => h e he hk.symm⟩

theorem lookup_put (k : String) :
    (put key value l).lookup k = if k = key then some value else l.lookup k := by
  induction l with
  | nil => simp [put, lookup_cons_eq]
  | cons p rest ih =>
    obtain ⟨k', v⟩ := p
    simp only [put]
    split
    · rw [lookup_cons_eq]
    · split
      · next heq =>
        subst heq
        by_cases hk : k = key <;> simp [lookup_cons_eq, hk]
      · next hne =>
        rw [lookup_cons_eq, lookup_cons_eq, ih]
        by_cases hk : k = k'
        · subst hk
          simp [Ne.symm hne]
        · simp [hk]

theorem pairwise_put (h : l.Pairwise (fun a b => a.1 < b.1)) :
    (put key value l).Pairwise (fun a b => a.1 < b.1) := by
  induction l with
  | nil => simp [put]
  | cons p rest ih =>
    obtain ⟨k, v⟩ := p
    have h' := List.pairwise_cons.1 h
    simp only [put]
    split
    · next hk =>
      refine List.pairwise_cons.2 ⟨fun e he => ?_, h⟩
      rcases List.mem_cons.1 he with rfl | he
      · exact hk
      · exact String.lt_trans hk (h'.1 e he)
    · next hk =>
      split
      · next he => subst he; exact List.pairwise_cons.2 h'
      · next hne =>
        refine List.pairwise_cons.2 ⟨fun e he => ?_, ih h'.2⟩
        rcases mem_of_mem_put he with rfl | he
        · have := String.not_lt.1 hk
          exact Classical.byContradiction fun hn =>
            hne (String.le_antisymm (String.not_lt.1 hn) this)
        · exact h'.1 e he

theorem put_of_last (h : ∀ e ∈ l, e.1 < key) : put key value l = l ++ [(key, value)] := by
  induction l with
  | nil => rfl
  | cons p rest ih =>
    obtain ⟨k, v⟩ := p
    have hk : k < key := h _ List.mem_cons_self
    have hne : key ≠ k := fun he => String.lt_irrefl k (he ▸ hk)
    rw [put, if_neg (String.lt_asymm hk), if_neg hne, ih fun e he =>
      h e (List.mem_cons_of_mem _ he)]
    rfl

end Keyed

/-- At most one value for every key. -/
structure Keyed (α : Type) where
  entries : List (String × α)
  ascending : entries.Pairwise (fun a b => a.1 < b.1)

namespace Keyed

variable {α : Type}

def empty : Keyed α := ⟨[], .nil⟩

def insert (m : Keyed α) (key : String) (value : α) : Keyed α :=
  ⟨put key value m.entries, pairwise_put m.ascending⟩

/-- The last of several values for a key stays. -/
def ofList (l : List (String × α)) : Keyed α := l.foldl (fun m e => m.insert e.1 e.2) empty

def get? (m : Keyed α) (key : String) : Option α := m.entries.lookup key

theorem get?_insert (m : Keyed α) (key : String) (value : α) (k : String) :
    (m.insert key value).get? k = if k = key then some value else m.get? k := lookup_put k

theorem get?_foldl_insert (m : Keyed α) (l : List (String × α)) (k : String) :
    (l.foldl (fun m e => m.insert e.1 e.2) m).get? k = (l.reverse.lookup k).or (m.get? k) := by
  induction l generalizing m with
  | nil => rfl
  | cons e l ih =>
    rw [List.foldl_cons, ih, get?_insert, List.reverse_cons, List.lookup_append, Option.or_assoc,
      lookup_cons_eq]
    by_cases hk : k = e.1 <;> simp [hk]

theorem get?_ofList (l : List (String × α)) (k : String) :
    (ofList l).get? k = l.reverse.lookup k := by
  rw [ofList, get?_foldl_insert]
  exact Option.or_none

theorem get?_ofList_of_last {l before later : List (String × α)} {e : String × α}
    (h : l = before ++ e :: later) (hlast : e.1 ∉ later.map (·.1)) :
    (ofList l).get? e.1 = some e.2 := by
  rw [get?_ofList, List.lookup_eq_some_iff]
  refine ⟨later.reverse, before.reverse, by simp [h], fun x hx => bne_iff_ne.2 fun heq => hlast ?_⟩
  rw [heq]
  exact List.mem_map_of_mem (List.mem_reverse.1 hx)

theorem get?_ofList_of_mem {l : List (String × α)} (h : (l.map (·.1)).Nodup) {e : String × α}
    (he : e ∈ l) :
    (ofList l).get? e.1 = some e.2 := by
  obtain ⟨before, later, hl⟩ := List.append_of_mem he
  rw [hl, List.map_append, List.map_cons, List.nodup_append] at h
  exact get?_ofList_of_last hl (List.nodup_cons.1 h.2.1).1

theorem get?_ofList_of_notMem {l : List (String × α)} {k : String} (h : k ∉ l.map (·.1)) :
    (ofList l).get? k = none := by
  rw [get?_ofList, lookup_eq_none_iff_notMem, List.map_reverse, List.mem_reverse]
  exact h

theorem get?_ofList_of_nodup {l : List (String × α)} (h : (l.map (·.1)).Nodup) (k : String) :
    (ofList l).get? k = l.lookup k := by
  cases hl : l.lookup k with
  | some value =>
    obtain ⟨before, later, rfl, -⟩ := List.lookup_eq_some_iff.1 hl
    exact get?_ofList_of_mem h (e := (k, value)) (by simp)
  | none => exact get?_ofList_of_notMem (lookup_eq_none_iff_notMem.1 hl)

theorem entries_foldl_insert {m : Keyed α} {l : List (String × α)}
    (h : (m.entries ++ l).Pairwise fun a b => a.1 < b.1) :
    (l.foldl (fun m e => m.insert e.1 e.2) m).entries = m.entries ++ l := by
  induction l generalizing m with
  | nil => exact (List.append_nil _).symm
  | cons e l ih =>
    have hlast : (m.insert e.1 e.2).entries = m.entries ++ [e] :=
      put_of_last fun a ha => (List.pairwise_append.1 h).2.2 a ha e List.mem_cons_self
    have hmore : ((m.insert e.1 e.2).entries ++ l).Pairwise fun a b => a.1 < b.1 := by
      rw [hlast, List.append_assoc]
      exact h
    rw [List.foldl_cons, ih hmore, hlast, List.append_assoc]
    rfl

/-- An ascending list is kept as it is. -/
theorem entries_ofList {l : List (String × α)} (h : l.Pairwise fun a b => a.1 < b.1) :
    (ofList l).entries = l :=
  entries_foldl_insert h

theorem mem_of_mem_foldl_insert {m : Keyed α} {l : List (String × α)} {e : String × α}
    (h : e ∈ (l.foldl (fun m e => m.insert e.1 e.2) m).entries) : e ∈ m.entries ∨ e ∈ l := by
  induction l generalizing m with
  | nil => exact .inl h
  | cons a l ih =>
    rcases ih h with h | h
    · exact (mem_of_mem_put h).elim (fun h => .inr (h ▸ List.mem_cons_self)) .inl
    · exact .inr (List.mem_cons_of_mem _ h)

theorem mem_of_mem_ofList {l : List (String × α)} {e : String × α} (h : e ∈ (ofList l).entries) :
    e ∈ l :=
  (mem_of_mem_foldl_insert h).resolve_left List.not_mem_nil

def keys (m : Keyed α) : List String := m.entries.map (·.1)

end Keyed

end IncidentBoard
