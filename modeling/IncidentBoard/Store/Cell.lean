import IncidentBoard.Calendar.Layout
import IncidentBoard.Calendar.Text
import IncidentBoard.Decimal.Numeral
import IncidentBoard.Json.Basic
import IncidentBoard.Plan.Basic
import IncidentBoard.Text.Utf8

/-! Cells as a store holds them and as results do. -/
namespace IncidentBoard.Store

/-- A cell of a result. -/
inductive Cell
  | null
  | int (n : Int)
  | float (x : Float)
  | text (s : String)
  | timestamp (t : Timestamp)

namespace Cell

def isNull : Cell → Bool
  | .null => true
  | _ => false

/-- The finite number that a cell holds; a text may spell one. -/
def number? : Cell → Option Float
  | .int n => some (Float.ofInt n)
  | .float x => if x.isFinite then some x else none
  | .text s => Decimal.readFloat? (Text.trim s.toList)
  | .null | .timestamp _ => none

def toJson : Cell → Json
  | .null => .null
  | .int n => .int n
  | .float x => .float x
  | .text s => .str s
  | .timestamp t => .str t.sortKey

end Cell

/-- A cell as a store holds it: texts are bytes. -/
inductive RawCell
  | null
  | int (n : Int)
  | real (x : Float)
  | text (bytes : List UInt8)
  | blob (bytes : List UInt8)

/-- What a store is handed for a bound value. It has no type of its own for timestamps. -/
def RawCell.ofValue : SqlValue → RawCell
  | .int n => .int n
  | .text s => .text (Text.bytes s)
  | .timestamp t => .text (Text.bytes t.sortKey)

/-- Why a cell has no value in a result. -/
inductive CellFault
  | badText (fault : Text.Utf8.Fault)
  | blob
  deriving DecidableEq, Repr

def CellFault.message : CellFault → String
  | .badText fault => fault.message
  | .blob => "binary values are not supported"

/-- In a column of timestamps, numbers are seconds of the epoch and texts are read; what is no
timestamp stays as it is. -/
def RawCell.decode (kind : Option ColumnKind) : RawCell → Except CellFault Cell
  | .null => .ok .null
  | .int n =>
    if kind = some .timestamp then .ok ((Timestamp.ofEpochSeconds? n).elim (.int n) .timestamp)
    else .ok (.int n)
  | .real x => .ok (.float x)
  | .text bytes =>
    match Text.Utf8.decode bytes with
    | .error fault => .error (.badText fault)
    | .ok s =>
      if kind = some .timestamp then .ok ((Timestamp.parse? s).elim (.text s) .timestamp)
      else .ok (.text s)
  | .blob _ => .error .blob

end IncidentBoard.Store
