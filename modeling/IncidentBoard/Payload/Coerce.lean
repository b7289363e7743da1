import IncidentBoard.Bucket
import IncidentBoard.Decimal.Style
import IncidentBoard.Store.Cell

/-! Numbers and group values as charts show them. -/
namespace IncidentBoard.Payload

open Store

/-- Stands for a number that is missing. -/
def missing : String := "--"

/-- Stands for a group value that is null or blank. -/
def notAvailable : String := "N/A"

def number? (c : Option Cell) : Option Float := c.bind Cell.number?

def finite? (x : Float) : Option Float := if x.isFinite then some x else none

/-- An integer below 10^15 is written as one, everything else with two places. -/
def binaryText (b : Decimal.Binary) : String :=
  match b.toInt? with
  | some n => if n.natAbs < 1000000000000000 then toString n else b.fixed 2
  | none => b.fixed 2

def numberText (x : Option Float) : String :=
  match x.bind Decimal.Binary.ofFloat? with
  | some b => binaryText b
  | none => missing

def percentText (x : Option Float) : String :=
  match x.bind Decimal.Binary.ofFloat? with
  | some b => b.fixed 1 ++ "%"
  | none => missing

/-- The share of `part` in `whole`, in percent; nothing if the whole is zero. -/
def percentOf (part whole : Option Float) : Option Float :=
  match part, whole with
  | some p, some w => if w != 0 then finite? (p / w * 100) else none
  | _, _ => none

/-- A group value: equal keys are one value, and keys of timestamps order them. -/
structure GroupValue where
  key : String
  display : String
  deriving DecidableEq, Repr

def GroupValue.ofText (s : String) : GroupValue := ⟨s, s⟩

def groupValue (c : Option Cell) (b : Option Bucket) : GroupValue :=
  match c with
  | none | some .null => .ofText notAvailable
  | some (.text s) => .ofText (if Text.isBlankText s then notAvailable else s)
  | some (.int n) => .ofText (toString n)
  | some (.float x) => .ofText (numberText (some x))
  | some (.timestamp t) =>
    ⟨t.sortKey, match b with
      | some b => b.display t
      | none => t.readable⟩

end IncidentBoard.Payload
