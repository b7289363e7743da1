import IncidentBoard.Payload.Basic

/-! Widgets end to end: compiled, narrowed to a scope, run, and made into charts. -/
namespace IncidentBoard

open Access Plan Store Widget Payload

/-- The most points that a window is filled with, and the most rows that a definition may ask
for. -/
structure Limits where
  maxPoints : Nat := Bucket.defaultMaxPoints
  maxLimit : Nat := defaultMaxLimit
  deriving DecidableEq, Repr

inductive ExecutionError
  | definition (e : DefinitionError)
  | store (e : StoreError)
  deriving DecidableEq

namespace ExecutionError

def message : ExecutionError → String
  | .definition e => e.message
  | .store e => "Query execution failed: " ++ e.message

/-- What a client is told: nothing that a store said. -/
def clientMessage : ExecutionError → String
  | .definition e => e.message
  | .store _ => "An unexpected error occurred"

def isDefinitionError : ExecutionError → Bool
  | .definition _ => true
  | .store _ => false

end ExecutionError

/-- A definition that does not compile never reaches the store. -/
def execute {σ : Type} (store : Store σ) (limits : Limits) (definition : Definition) (w : Timeframe)
    (scope : Scope) (s : σ) : Except ExecutionError Result × σ :=
  match compile definition w limits.maxLimit with
  | .error e => (.error (.definition e), s)
  | .ok plan =>
    let (result, s) := run store (scope.apply plan) s
    (result.mapError .store, s)

/-- The chart of a result; nothing if it leaves the calendar. -/
def chart? (limits : Limits) (definition : Definition) (w : Timeframe) (r : Result) :
    Option Payload :=
  format? r definition.options w limits.maxPoints

end IncidentBoard
