import IncidentBoard.Access.Directory
import IncidentBoard.Engine

/-! All widgets of a board for one principal. A widget that fails fills its own place and no
other. -/
namespace IncidentBoard

open Access Store Widget Payload

/-- A widget on a board. -/
structure Placed where
  id : String
  definition : Definition

inductive Outcome
  | ok (payload : Payload)
  | error (message : String)

namespace Outcome

def isOk : Outcome → Bool
  | .ok _ => true
  | .error _ => false

def toJson : Outcome → Json
  | .ok payload => .ofMembers [("status", .str "ok"), ("payload", payload.toJson)]
  | .error message => .ofMembers [("status", .str "error"), ("message", .str message)]

end Outcome

namespace Board

variable {σ : Type}

/-- One widget; nothing if its chart leaves the calendar. -/
def outcome? (store : Store σ) (limits : Limits) (w : Timeframe) (scope : Scope) (d : Definition)
    (s : σ) : Option (Outcome × σ) :=
  match execute store limits d w scope s with
  | (.error e, s) => some (.error e.clientMessage, s)
  | (.ok r, s) => (chart? limits d w r).map fun payload => (.ok payload, s)

/-- The widgets in their order, each with the state that the one before it left. -/
def outcomes? (store : Store σ) (limits : Limits) (w : Timeframe) (scope : Scope) :
    List Placed → σ → Option (List (String × Outcome) × σ)
  | [], s => some ([], s)
  | p :: ps, s => do
    let (o, s) ← outcome? store limits w scope p.definition s
    let (os, s) ← outcomes? store limits w scope ps s
    return ((p.id, o) :: os, s)

/-- The outcomes by id, of which the last for an id stays; the scope is looked up once. -/
def fetch? (store : Store σ) (limits : Limits) (lookup : Lookup) (principal : String)
    (widgets : List Placed) (w : Timeframe) (s : σ) : Option (Keyed Outcome × σ) := do
  let (os, s) ← outcomes? store limits w (resolve lookup principal) widgets s
  return (.ofList os, s)

end Board

end IncidentBoard
