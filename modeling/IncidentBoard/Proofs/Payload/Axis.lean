import IncidentBoard.Payload.Axis
import Mathlib.Data.List.Basic
import Mathlib.Data.List.Induction
import Mathlib.Data.List.Nodup

/-! The values of an axis and the index of their keys stay in step. -/
namespace IncidentBoard.Payload

theorem eraseDups_concat (l : List String) (x : String) :
    (l ++ [x]).eraseDups = if x ∈ l then l.eraseDups else l.eraseDups ++ [x] := by
  rw [List.eraseDups_append]
  split
  · next hx => simp [List.removeAll, hx]
  · next hx => simp [List.removeAll, hx, List.eraseDups_cons]

/-- A later member comes first in the list at a later place. -/
theorem pairwise_idxOf_eraseDups (l : List String) :
    l.eraseDups.Pairwise fun a b => l.idxOf a < l.idxOf b := by
  induction l using List.reverseRecOn with
  | nil => exact .nil
  | append_singleton l x ih =>
    have hkept {a : String} (ha : a ∈ l.eraseDups) : (l ++ [x]).idxOf a = l.idxOf a :=
      List.idxOf_append_of_mem (List.mem_eraseDups.1 ha)
    have hold : l.eraseDups.Pairwise fun a b => (l ++ [x]).idxOf a < (l ++ [x]).idxOf b :=
      ih.imp_of_mem fun ha hb h => by rwa [hkept ha, hkept hb]
    rw [eraseDups_concat]
    split
    · exact hold
    · next hx =>
      refine List.pairwise_append.2 ⟨hold, List.pairwise_singleton _ _, fun a ha b hb => ?_⟩
      rw [List.mem_singleton.1 hb, hkept ha, List.idxOf_append_of_notMem hx]
      exact Nat.lt_of_lt_of_le (List.idxOf_lt_length_of_mem (List.mem_eraseDups.1 ha))
        (Nat.le_add_right _ _)

namespace Axis

variable {a : Axis} {v w : GroupValue} {vs : List GroupValue} {k : String} {i : Nat}

def keys (a : Axis) : List String := a.values.toList.map (·.key)

/-- The index finds a key exactly where it stands; so no key stands twice. -/
def Consistent (a : Axis) : Prop := ∀ k i, a.position? k = some i ↔ a.keys[i]? = some k

namespace Consistent

theorem nodup (h : a.Consistent) : a.keys.Nodup := by
  rw [List.nodup_iff_injective_get]
  intro i j hij
  have hi := (h _ _).2 (List.getElem?_eq_getElem i.2)
  have hj := (h _ _).2 (List.getElem?_eq_getElem j.2)
  rw [List.get_eq_getElem, List.get_eq_getElem] at hij
  rw [hij, hj] at hi
  exact Fin.ext (Option.some.inj hi).symm

theorem mem_iff (h : a.Consistent) : k ∈ a.keys ↔ ∃ i, a.position? k = some i := by
  simp only [List.mem_iff_getElem?, h k]

theorem index_iff (h : a.Consistent) (k : String) (i : Nat) :
    a.index[k]? = some i ↔ ∃ v, a.values[i]? = some v ∧ v.key = k := by
  refine (h k i).trans ?_
  rw [keys, List.getElem?_map, Option.map_eq_some_iff, Array.getElem?_toList]

theorem position?_eq_none (h : a.Consistent) : a.position? k = none ↔ k ∉ a.keys := by
  rw [h.mem_iff, Option.eq_none_iff_forall_ne_some, not_exists]

end Consistent

theorem consistent_empty : ({} : Axis).Consistent := by
  intro k i
  simp [position?, keys]

/-- Entries that are there keep their positions. -/
theorem position?_insert_of_some (h : a.position? k = some i) :
    (a.insert v).2.position? k = some i := by
  unfold insert
  split
  · exact h
  · next hnew =>
    have hne : v.key ≠ k := by
      rintro rfl
      rw [hnew] at h
      cases h
    rw [position?, Std.HashMap.getElem?_insert, if_neg (by simpa using hne)]
    exact h

theorem values_insert (h : a.Consistent) (v : GroupValue) :
    (a.insert v).2.values.toList =
      if v.key ∈ a.keys then a.values.toList else a.values.toList ++ [v] := by
  unfold insert
  split
  · next i hi => rw [if_pos (h.mem_iff.2 ⟨i, hi⟩)]
  · next hnew => rw [if_neg (h.position?_eq_none.1 hnew), Array.toList_push]

theorem keys_insert (h : a.Consistent) (v : GroupValue) :
    (a.insert v).2.keys = if v.key ∈ a.keys then a.keys else a.keys ++ [v.key] := by
  rw [keys, values_insert h]
  split
  · rfl
  · rw [List.map_append]
    rfl

theorem getElem?_concat_eq_some {l : List String} {x : String} :
    (l ++ [x])[i]? = some k ↔ l[i]? = some k ∨ i = l.length ∧ x = k := by
  rw [List.getElem?_append]
  split
  · next hi => simp [Nat.ne_of_lt hi]
  · next hi =>
    have hnone : l[i]? = none := List.getElem?_eq_none (Nat.not_lt.1 hi)
    rw [List.getElem?_singleton, hnone]
    split
    · simp; omega
    · simp; omega

theorem Consistent.insert (h : a.Consistent) (v : GroupValue) :
    (a.insert v).2.Consistent ∧ (a.insert v).2.position? v.key = some (a.insert v).1 := by
  have hkeys := keys_insert h v
  unfold Axis.insert at hkeys ⊢
  split
  · next i hi => exact ⟨h, hi⟩
  · next hnew =>
    have hv := h.position?_eq_none.1 hnew
    rw [hnew] at hkeys
    refine ⟨fun k i => ?_, Std.HashMap.getElem?_insert_self⟩
    rw [hkeys, if_neg hv, getElem?_concat_eq_some, ← h k i, position?, Std.HashMap.getElem?_insert]
    by_cases hk : v.key = k
    · subst hk
      simp [hnew, keys, eq_comm]
    · rw [if_neg (by simpa using hk)]
      simp [hk, position?]

theorem Consistent.insertAll (h : a.Consistent) (vs : List GroupValue) :
    (a.insertAll vs).Consistent := by
  induction vs generalizing a with
  | nil => exact h
  | cons v vs ih => exact ih (h.insert v).1

theorem position?_insertAll_of_some (vs : List GroupValue) (h : a.position? k = some i) :
    (a.insertAll vs).position? k = some i := by
  induction vs generalizing a with
  | nil => exact h
  | cons v vs ih => exact ih (position?_insert_of_some h)

theorem insertAll_cons (v : GroupValue) (vs : List GroupValue) :
    a.insertAll (v :: vs) = (a.insert v).2.insertAll vs := rfl

theorem insertAll_append (vs ws : List GroupValue) :
    a.insertAll (vs ++ ws) = (a.insertAll vs).insertAll ws :=
  List.foldl_append

/-! An axis that values are put on one after the other. -/

/-- Keys stand in the order in which they came first. -/
theorem keys_insertAll (vs : List GroupValue) :
    (insertAll {} vs).keys = (vs.map (·.key)).eraseDups := by
  induction vs using List.reverseRecOn with
  | nil => rfl
  | append_singleton vs v ih =>
    have h := consistent_empty.insertAll vs
    rw [insertAll_append, List.map_append, List.map_singleton, eraseDups_concat, ← ih]
    change ((insertAll {} vs).insert v).2.keys = _
    rw [keys_insert h]
    simp only [ih, List.mem_eraseDups]

/-- The first one of the values of its key. -/
def IsFirst (vs : List GroupValue) (w : GroupValue) : Prop := vs.find? (·.key == w.key) = some w

theorem isFirst_concat : IsFirst (vs ++ [v]) w ↔ IsFirst vs w ∨ w = v ∧ v.key ∉ vs.map (·.key) := by
  simp only [IsFirst, List.find?_append]
  cases hfound : vs.find? (·.key == w.key) with
  | some u =>
    have hu : u.key = w.key := by simpa using List.find?_some hfound
    have hknown : w.key ∈ vs.map (·.key) := List.mem_map.2 ⟨u, List.mem_of_find?_eq_some hfound, hu⟩
    have hnew : ¬(w = v ∧ v.key ∉ vs.map (·.key)) := fun ⟨hw, hv⟩ => hv (hw ▸ hknown)
    rw [Option.some_or, or_iff_left hnew]
  | none =>
    have hw : w.key ∉ vs.map (·.key) := by simpa using hfound
    rw [Option.none_or, or_iff_right (Option.some_ne_none w).symm, List.find?_singleton]
    constructor
    · intro h
      split at h
      · cases h
        exact ⟨rfl, hw⟩
      · cases h
    · rintro ⟨rfl, -⟩
      rw [if_pos (beq_self_eq_true _)]

theorem exists_isFirst (h : k ∈ vs.map (·.key)) : ∃ w, IsFirst vs w ∧ w.key = k := by
  have hfound : (vs.find? (·.key == k)).isSome := by
    simpa using h
  obtain ⟨w, hw⟩ := Option.isSome_iff_exists.1 hfound
  obtain rfl : w.key = k := by simpa using List.find?_some hw
  exact ⟨w, hw, rfl⟩

/-- The entries are the first values of their keys. -/
def Collects (a : Axis) (vs : List GroupValue) : Prop := ∀ w, w ∈ a.values.toList ↔ IsFirst vs w

namespace Collects

theorem mem_keys (h : a.Collects vs) : k ∈ a.keys ↔ k ∈ vs.map (·.key) := by
  rw [keys, List.mem_map]
  constructor
  · rintro ⟨w, hw, rfl⟩
    exact List.mem_map_of_mem (List.mem_of_find?_eq_some ((h w).1 hw))
  · intro hk
    obtain ⟨w, hw, hwk⟩ := exists_isFirst hk
    exact ⟨w, (h w).2 hw, hwk⟩

theorem insert (h : a.Collects vs) (ha : a.Consistent) (v : GroupValue) :
    (a.insert v).2.Collects (vs ++ [v]) := by
  intro w
  rw [values_insert ha, isFirst_concat, ← h w, ← h.mem_keys]
  by_cases hv : v.key ∈ a.keys <;> simp [hv]

theorem insertAll (h : a.Collects vs) (ha : a.Consistent) (ws : List GroupValue) :
    (a.insertAll ws).Collects (vs ++ ws) := by
  induction ws generalizing a vs with
  | nil => rwa [List.append_nil]
  | cons w ws ih =>
    rw [List.append_cons]
    exact ih (h.insert ha w) (ha.insert w).1

end Collects

theorem collects_empty : ({} : Axis).Collects [] := by
  intro w
  simp [IsFirst]

theorem collects_insertAll (vs : List GroupValue) : (insertAll {} vs).Collects vs :=
  collects_empty.insertAll consistent_empty vs

/-! Sorting. -/

theorem positions_of_notMem {index : Std.HashMap String Nat} {start : Nat}
    (h : k ∉ vs.map (·.key)) :
    (positions start vs index)[k]? = index[k]? := by
  induction vs generalizing start index with
  | nil => rfl
  | cons v vs ih =>
    rw [List.map_cons, List.mem_cons, not_or] at h
    rw [positions, ih h.2, Std.HashMap.getElem?_insert, if_neg (by simpa using Ne.symm h.1)]

theorem positions_of_getElem? {index : Std.HashMap String Nat} {start : Nat}
    (hnodup : (vs.map (·.key)).Nodup) (h : (vs.map (·.key))[i]? = some k) :
    (positions start vs index)[k]? = some (start + i) := by
  induction vs generalizing start index i with
  | nil => simp at h
  | cons v vs ih =>
    rw [List.map_cons, List.nodup_cons] at hnodup
    cases i with
    | zero =>
      obtain rfl : v.key = k := Option.some.inj h
      rw [positions, positions_of_notMem hnodup.1, Std.HashMap.getElem?_insert_self]
      rfl
    | succ i =>
      rw [positions, ih hnodup.2 h]
      congr 1
      omega

theorem keys_sortByKey_perm (a : Axis) : a.sortByKey.keys.Perm a.keys :=
  (List.mergeSort_perm _ _).map _

theorem Consistent.sortByKey (h : a.Consistent) : a.sortByKey.Consistent := by
  have hnodup := (keys_sortByKey_perm a).nodup_iff.2 h.nodup
  intro k i
  constructor
  · intro hi
    by_cases hk : k ∈ a.sortByKey.keys
    · obtain ⟨j, hj⟩ := List.mem_iff_getElem?.1 hk
      have hposition : a.sortByKey.position? k = some (0 + j) := positions_of_getElem? hnodup hj
      rw [hposition, Option.some.injEq] at hi
      rw [← hj, ← hi, Nat.zero_add]
    · have hposition : a.sortByKey.position? k = none :=
        (positions_of_notMem hk).trans Std.HashMap.getElem?_empty
      rw [hposition] at hi
      cases hi
  · intro hi
    have hposition : a.sortByKey.position? k = some (0 + i) := positions_of_getElem? hnodup hi
    rw [hposition, Nat.zero_add]

theorem le_keys_sortByKey (a : Axis) : a.sortByKey.keys.Pairwise (· ≤ ·) := by
  refine List.pairwise_map.2 ((List.pairwise_mergeSort ?_ ?_ _).imp fun h => of_decide_eq_true h)
  · simp only [decide_eq_true_eq]
    exact fun _ _ _ => String.le_trans
  · intro v w
    simp only [Bool.or_eq_true, decide_eq_true_eq]
    exact String.le_total _ _

/-- Sorted keys ascend, for no key stands twice. -/
theorem Consistent.lt_keys_sortByKey (h : a.Consistent) : a.sortByKey.keys.Pairwise (· < ·) :=
  ((le_keys_sortByKey a).and h.sortByKey.nodup).imp fun ⟨hle, hne⟩ => Std.lt_of_le_of_ne hle hne

theorem Collects.sortByKey (h : a.Collects vs) : a.sortByKey.Collects vs := fun w =>
  (List.mergeSort_perm _ _).mem_iff.trans (h w)

end Axis

end IncidentBoard.Payload
