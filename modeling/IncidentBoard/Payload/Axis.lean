import IncidentBoard.Payload.Coerce
import Std.Data.HashMap

/-! The values along one side of a chart, each once, with their positions. -/
namespace IncidentBoard.Payload

/-- `index` finds the position of a key in `values`. -/
structure Axis where
  values : Array GroupValue := #[]
  index : Std.HashMap String Nat := ∅

namespace Axis

def position? (a : Axis) (key : String) : Option Nat := a.index[key]?

/-- The position of a value's key, at the end if it is new. A known key keeps its display text. -/
def insert (a : Axis) (v : GroupValue) : Nat × Axis :=
  match a.position? v.key with
  | some i => (i, a)
  | none => (a.values.size, ⟨a.values.push v, a.index.insert v.key a.values.size⟩)

def insertAll (a : Axis) (vs : List GroupValue) : Axis := vs.foldl (fun a v => (a.insert v).2) a

/-- The positions of the keys of a list whose first value stands at `start`. -/
def positions (start : Nat) : List GroupValue → Std.HashMap String Nat → Std.HashMap String Nat
  | [], index => index
  | v :: vs, index => positions (start + 1) vs (index.insert v.key start)

/-- Keys of timestamps ascend with time, from year 0 to year 9999. -/
def sortByKey (a : Axis) : Axis :=
  let sorted := a.values.toList.mergeSort fun v w => decide (v.key ≤ w.key)
  ⟨sorted.toArray, positions 0 sorted ∅⟩

end Axis

end IncidentBoard.Payload
