import IncidentBoard.Proofs.Payload.Axis
import IncidentBoard.Proofs.Text.ByteOrder

/-! Axes after any insertions and sorts. The index finds every key where it stands, an entry stays
the first value of its key, and only a sort moves entries. -/
namespace IncidentBoard.Payload.Axis

open Text

/-- What changes an axis. -/
inductive Change where
  | insert (v : GroupValue)
  | sortByKey

def Change.value? : Change → Option GroupValue
  | .insert v => some v
  | .sortByKey => none

def change (a : Axis) : Change → Axis
  | .insert v => (a.insert v).2
  | .sortByKey => a.sortByKey

/-- The axis that is empty before its changes. -/
def after (history : List Change) : Axis := history.foldl change {}

/-- The values of all insertions, also those whose keys are known. -/
def inserted (history : List Change) : List GroupValue := history.filterMap Change.value?

def insertedKeys (history : List Change) : List String := (inserted history).map (·.key)

/-- An insertion answers where the key of its value stands. It moves no entry, and adds none but its
value. -/
structure Inserts (a : Axis) (v : GroupValue) (i : Nat) (b : Axis) : Prop where
  found : ∃ w, b.values[i]? = some w ∧ w.key = v.key
  kept : ∀ (j : Nat) w, a.values[j]? = some w → b.values[j]? = some w
  others : ∀ j : Nat, j ≠ i → b.values[j]? = a.values[j]?

/-- The entries of an axis and their index, by what was done to the axis. -/
structure Tracks (a : Axis) (history : List Change) : Prop where
  nodup : a.keys.Nodup
  mem_keys : ∀ k, k ∈ a.keys ↔ k ∈ insertedKeys history
  index_iff : ∀ (k : String) (i : Nat), a.index[k]? = some i ↔ ∃ v, a.values[i]? = some v ∧
    v.key = k
  first : ∀ w, w ∈ a.values.toList ↔ (inserted history).find? (·.key == w.key) = some w
  inserts : ∀ v, a.Inserts v (a.insert v).1 (a.insert v).2
  /-- What an insertion answers is right until the next sort. -/
  answered : ∀ before v later, history = before ++ .insert v :: later → .sortByKey ∉ later →
    a.index[v.key]? = some ((after before).insert v).1
  unsorted : .sortByKey ∉ history →
    a.keys.Pairwise fun k l => (insertedKeys history).idxOf k < (insertedKeys history).idxOf l
  sorted : ∀ before, history = before ++ [.sortByKey] → a.keys.Pairwise fun k l => bytes k < bytes l

variable {a : Axis} {history : List Change}

theorem inserts_insert (h : a.Consistent) (v : GroupValue) :
    a.Inserts v (a.insert v).1 (a.insert v).2 := by
  have hfound := ((h.insert v).1.index_iff _ _).1 (h.insert v).2
  unfold Axis.insert at hfound ⊢
  split at hfound
  · exact ⟨hfound, fun _ _ hw => hw, fun _ _ => rfl⟩
  · refine ⟨hfound, fun j w hw => ?_, fun j hj => ?_⟩
    · obtain ⟨hj, rfl⟩ := Array.getElem?_eq_some_iff.1 hw
      exact Array.getElem?_push_lt hj
    · exact Array.getElem?_push.trans (if_neg hj)

theorem consistent_change (h : a.Consistent) (c : Change) : (a.change c).Consistent := by
  cases c with
  | insert v => exact (h.insert v).1
  | sortByKey => exact h.sortByKey

theorem collects_change {vs : List GroupValue} (h : a.Collects vs) (ha : a.Consistent)
    (c : Change) :
    (a.change c).Collects (vs ++ inserted [c]) := by
  cases c with
  | insert v => exact h.insert ha v
  | sortByKey =>
    change a.sortByKey.Collects (vs ++ [])
    rw [List.append_nil]
    exact h.sortByKey

theorem after_append (history later : List Change) :
    after (history ++ later) = later.foldl change (after history) := List.foldl_append

theorem inserted_append (history later : List Change) :
    inserted (history ++ later) = inserted history ++ inserted later := List.filterMap_append

theorem inserted_map_insert (vs : List GroupValue) : inserted (vs.map .insert) = vs := by
  rw [inserted, List.filterMap_map]
  exact List.filterMap_some

theorem after_map_insert (vs : List GroupValue) : after (vs.map .insert) = insertAll {} vs :=
  List.foldl_map

theorem consistent_after (history : List Change) : (after history).Consistent := by
  induction history using List.reverseRecOn with
  | nil => exact consistent_empty
  | append_singleton history c ih =>
    rw [after_append]
    exact consistent_change ih c

theorem collects_after (history : List Change) : (after history).Collects (inserted history) := by
  induction history using List.reverseRecOn with
  | nil => exact collects_empty
  | append_singleton history c ih =>
    rw [after_append, inserted_append]
    exact collects_change ih (consistent_after history) c

theorem foldl_change_of_unsorted (h : .sortByKey ∉ history) :
    history.foldl change a = a.insertAll (inserted history) := by
  induction history generalizing a with
  | nil => rfl
  | cons c history ih =>
    rw [List.mem_cons, not_or] at h
    cases c with
    | insert v => exact ih h.2
    | sortByKey => exact absurd rfl h.1

theorem keys_after_of_unsorted (h : .sortByKey ∉ history) :
    (after history).keys = (insertedKeys history).eraseDups := by
  rw [after, foldl_change_of_unsorted h, keys_insertAll, insertedKeys]

theorem position?_after {before later : List Change} {v : GroupValue} (h : .sortByKey ∉ later) :
    (after (before ++ .insert v :: later)).position? v.key = some ((after before).insert v).1 := by
  have hafter : after (before ++ .insert v :: later) =
      ((after before).insert v).2.insertAll (inserted later) := by
    rw [after, List.foldl_append, List.foldl_cons, foldl_change_of_unsorted h]
    rfl
  rw [hafter]
  exact position?_insertAll_of_some _ ((consistent_after before).insert v).2

/-- Whatever is done to an axis, its entries and its index stay in step. -/
theorem tracks_after (history : List Change) : (after history).Tracks history := by
  have hconsistent := consistent_after history
  have hcollects := collects_after history
  constructor
  case nodup => exact hconsistent.nodup
  case mem_keys => exact fun k => hcollects.mem_keys
  case index_iff => exact hconsistent.index_iff
  case first => exact hcollects
  case inserts => exact inserts_insert hconsistent
  case answered =>
    rintro before v later rfl hlater
    exact position?_after hlater
  case unsorted =>
    intro hunsorted
    rw [keys_after_of_unsorted hunsorted]
    exact pairwise_idxOf_eraseDups _
  case sorted =>
    rintro before rfl
    rw [after_append]
    exact (consistent_after before).lt_keys_sortByKey.imp bytes_lt_bytes

/-- A key that comes again stays as it was, and a new one stands behind those that are sorted. -/
example : (after [.insert ⟨"b", "B"⟩, .insert ⟨"a", "A"⟩, .sortByKey, .insert ⟨"b", "again"⟩,
    .insert ⟨"0", "late"⟩]).values.toList.map (·.display) = ["A", "B", "late"] := by
  cbv

end IncidentBoard.Payload.Axis
