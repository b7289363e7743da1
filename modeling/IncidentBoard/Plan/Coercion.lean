import IncidentBoard.Calendar.Layout
import IncidentBoard.Decimal.Numeral
import IncidentBoard.Plan.Basic

/-! JSON values of filters, as values of a column's kind. -/
namespace IncidentBoard.Plan

open Widget

/-- A double with an integer value small enough to be exact. -/
def exactInteger? (x : Float) : Option Int := do
  let n ← (← Decimal.Binary.ofFloat? x).toInt?
  if n.natAbs < 9000000000000000 then some n else none

/-- Integers may be written as texts or as doubles without a fraction, texts as numbers. -/
def coerce (kind : ColumnKind) (j : Json) : Except ValueFault SqlValue :=
  match kind, j with
  | _, .null => .error .null
  | _, .arr _ | _, .obj _ => .error .notScalar
  | .integer, .int n =>
    if Word.isSigned n then .ok (.int n) else .error (.notIntegerNumber j.text)
  | .integer, .float x =>
    match exactInteger? x with
    | some n => .ok (.int n)
    | none => .error (.notIntegerNumber j.text)
  | .integer, .str s =>
    match Decimal.readInt64? (Text.trim s.toList) with
    | some n => .ok (.int n)
    | none => .error (.notIntegerText s)
  | .text, .str s => .ok (.text s)
  | .text, .int _ | .text, .float _ => .ok (.text j.text)
  | .timestamp, .str s =>
    match Timestamp.parse? s with
    | some t => .ok (.timestamp t)
    | none => .error (.notTimestamp s)
  | kind, j => .error (.wrongKind j.text kind)

def coerceAll (kind : ColumnKind) : List Json → Except ValueFault (List SqlValue)
  | [] => .ok []
  | j :: js => do
    let v ← coerce kind j
    let vs ← coerceAll kind js
    return v :: vs

/-- The wildcards of `LIKE`, and the escape itself. -/
def isWildcard (c : Char) : Bool := c == '%' || c == '_' || c == '\\'

/-- The pattern that a wildcard-free text matches only as itself. -/
def escapeLike (cs : List Char) : List Char :=
  cs.flatMap fun c => if isWildcard c then ['\\', c] else [c]

/-- Matches the texts that contain the needle. -/
def containsPattern (needle : String) : String :=
  String.ofList ('%' :: (escapeLike needle.toList ++ ['%']))

end IncidentBoard.Plan
