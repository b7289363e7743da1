import IncidentBoard.Calendar.Layout
import IncidentBoard.Proofs.Sqlite.Terms

/-! What the functions and operators of SQLite give, as far as buckets use them. -/
namespace IncidentBoard.Sql.Sqlite

open Calendar Text

/-- A value. Where SQLite would give a null or a number with a fraction, there is none. -/
inductive Value
  | int (n : Int)
  | text (s : String)
  deriving DecidableEq

namespace Value

def typeName : Value → String
  | .int _ => "integer"
  | .text _ => "text"

/-- The integer that arithmetic takes a value for; of texts, only digits alone are one. -/
def number? : Value → Option Int
  | .int n => some n
  | .text s =>
      if s.toList ≠ [] ∧ s.toList.all Char.isDigit then some (Nat.ofDigitChars 10 s.toList 0)
      else none

def string : Value → String
  | .int n => toString n
  | .text s => s

end Value

/-! Moments, as `STRFTIME` reads, moves and prints them. -/

/-- Nothing, or a point and digits. -/
def isFraction : List Char → Bool
  | [] => true
  | c :: ds => c == '.' && !ds.isEmpty && ds.all Char.isDigit

/-- `2024-03-07 13:45:00` or `2024-03-07T13:45:00`. Only whole seconds are kept. -/
def readMoment? (cs : List Char) : Option Timestamp := do
  let (year, cs) ← digits? 4 cs
  let (month, cs) ← digits? 2 (← mark? '-' cs)
  let (day, cs) ← digits? 2 (← mark? '-' cs)
  let (hour, cs) ← digits? 2 (← (mark? 'T' cs).or (mark? ' ' cs))
  let (minute, cs) ← digits? 2 (← mark? ':' cs)
  let (second, cs) ← digits? 2 (← mark? ':' cs)
  if isFraction cs ∧ hour < 24 ∧ minute < 60 ∧ second < 60 then
    Timestamp.ofParts? (← Date.ofYMD? year month day) (hour * 3600 + minute * 60 + second) 0
  else none

inductive Modifier
  | unixepoch
  | days (n : Int)
  /-- Sunday is 0. -/
  | weekday (n : Nat)

namespace Modifier

/-- `unixepoch`, `-6 days`, `weekday 1`. -/
def read? (s : String) : Option Modifier :=
  if s = "unixepoch" then some .unixepoch
  else if "weekday ".toList.isPrefixOf s.toList then
    match s.toList.drop 8 with
    | [c] => (digitValue? c).bind fun n => if n < 7 then some (.weekday n) else none
    | _ => none
  else match s.toList with
    | [] => none
    | sign :: cs => do
      let (n, cs) ← Calendar.number? cs.length cs
      if cs ≠ " days".toList then none
      else if sign = '-' then some (.days (-n))
      else if sign = '+' then some (.days n)
      else none

/-- Day 0 was a Monday. A weekday is looked for from the day on, so that the right day stays. -/
def move? (t : Timestamp) : Modifier → Option Timestamp
  | .unixepoch => none
  | .days n => t.addSeconds? (86400 * n)
  | .weekday n => t.addSeconds? (86400 * ((n - (t.date.number + 1)) % 7))

end Modifier

def Value.modifier? : Value → Option Modifier
  | .text s => Modifier.read? s
  | .int _ => none

/-- A time value, with the modifiers still to apply: only a modifier makes an integer count
seconds. -/
def timeValue? : Value → List Modifier → Option (Timestamp × List Modifier)
  | .text s, modifiers => (readMoment? s.toList).map (·, modifiers)
  | .int n, .unixepoch :: modifiers => (Timestamp.ofEpochSeconds? n).map (·, modifiers)
  | .int _, _ => none

/-- What stands for a directive of a format. Years have four digits. -/
def directive? (t : Timestamp) : Char → Option (List Char)
  | 'Y' => if 0 ≤ t.date.year ∧ t.date.year ≤ 9999 then some (padded 4 t.date.year.toNat) else none
  | 'm' => some (padded 2 t.date.month)
  | 'd' => some (padded 2 t.date.day)
  | 'H' => some (padded 2 t.hour)
  | 'M' => some (padded 2 t.minute)
  | 'S' => some (padded 2 (t.second % 60))
  | _ => none

def print? (t : Timestamp) : List Char → Option (List Char)
  | [] => some []
  | '%' :: c :: format => do
    let field ← directive? t c
    return field ++ (← print? t format)
  | c :: format => (print? t format).map (c :: ·)

def strftime? (format : String) (time : Value) (modifiers : List Value) : Option Value := do
  let modifiers ← modifiers.mapM Value.modifier?
  let (t, modifiers) ← timeValue? time modifiers
  let t ← modifiers.foldlM Modifier.move? t
  return .text (String.ofList (← print? t format.toList))

/-- `PRINTF('%02d', n)` -/
def printf? (format : String) (n : Int) : Option Value :=
  if format = "%02d" ∧ 0 ≤ n then some (.text (String.ofList (padded 2 n.toNat))) else none

/-! Values of expressions. -/

def call? (name : String) (args : List Value) : Option Value :=
  match args with
  | .text format :: time :: modifiers =>
    if name = "STRFTIME" then strftime? format time modifiers
    else if name = "PRINTF" ∧ modifiers = [] then time.number?.bind (printf? format)
    else none
  | [v] => if name = "TYPEOF" then some (.text v.typeName) else none
  | _ => none

/-- Comparisons give 1 or 0; integers divide towards zero. -/
def operate? : BinOp → Value → Value → Option Value
  | .eq, .text a, .text b => some (.int (if a = b then 1 else 0))
  | .times, a, b => do return .int ((← a.number?) * (← b.number?))
  | .divide, a, b => do
    let n ← b.number?
    if n = 0 then none else return .int ((← a.number?).tdiv n)
  | .concat, a, b => some (.text (a.string ++ b.string))
  | _, _, _ => none

/-- A row: the values of its columns. -/
abbrev Row := Option String → String → Value

namespace Term

mutual

/-- Only the chosen branch of a `CASE` has to have a value. -/
def value? (row : Row) : Term → Option Value
  | .column table name => some (row table name)
  | .int n => some (.int n)
  | .text s => some (.text s)
  | .call name args => (values? row args).bind (call? name)
  | .binary op left right => do operate? op (← left.value? row) (← right.value? row)
  | .choice condition a b => do
    let n ← (← condition.value? row).number?
    if n = 0 then b.value? row else a.value? row

def values? (row : Row) : List Term → Option (List Value)
  | [] => some []
  | e :: es => do return (← e.value? row) :: (← values? row es)

end

end Term

end IncidentBoard.Sql.Sqlite
