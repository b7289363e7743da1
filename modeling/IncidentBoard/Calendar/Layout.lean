import IncidentBoard.Calendar.Timestamp
import IncidentBoard.Text.Blank
import IncidentBoard.Text.Digit

/-! Reading timestamps and bounds of a window. -/
namespace IncidentBoard.Calendar

open Text

/-- A number of at least one digit and at most `max`. -/
def number? (max : Nat) (cs : List Char) : Option (Nat × List Char) :=
  let (n, taken, rest) := scanDigits max cs 0 0
  if taken = 0 then none else some (n, rest)

/-- A number of exactly `width` digits. -/
def digits? (width : Nat) (cs : List Char) : Option (Nat × List Char) :=
  let (n, taken, rest) := scanDigits width cs 0 0
  if taken = width then some (n, rest) else none

def mark? (c : Char) : List Char → Option (List Char)
  | d :: rest => if d = c then some rest else none
  | [] => none

/-- A fraction of a second: at least one digit, of which nine count. -/
def fraction? (cs : List Char) : Option (Nat × List Char) :=
  let (n, taken, rest) := scanDigits 9 cs 0 0
  if taken = 0 then none
  else some (n * Nat.pow 10 (9 - taken), rest.dropWhile fun c => (digitValue? c).isSome)

/-- Four digits at most, or any number of them after a sign. -/
def year? : List Char → Option (Int × List Char)
  | '-' :: cs => (number? cs.length cs).map fun (n, rest) => (-(n : Int), rest)
  | '+' :: cs => (number? cs.length cs).map fun (n, rest) => ((n : Int), rest)
  | cs => (number? 4 cs).map fun (n, rest) => ((n : Int), rest)

/-- The fields of a timestamp as they are written. -/
structure Fields where
  year : Int := 0
  month : Nat := 0
  day : Nat := 0
  hour : Nat := 0
  minute : Nat := 0
  second : Nat := 0
  nano : Nat := 0

def Fields.date? (f : Fields) : Option Date := Date.ofYMD? f.year f.month f.day

def Fields.timestamp? (f : Fields) : Option Timestamp := do
  Timestamp.ofClock? (← f.date?) f.hour f.minute f.second f.nano

/-- The parts of a layout. White space may stand before a number, and a gap is any run of it. -/
inductive Part
  | year | month | day | hour | minute | second
  | fraction
  | mark (c : Char)
  | gap

def Part.read (f : Fields) (cs : List Char) : Part → Option (Fields × List Char)
  | .year => (year? (trimLeft cs)).map fun (n, rest) => ({ f with year := n }, rest)
  | .month => (number? 2 (trimLeft cs)).map fun (n, rest) => ({ f with month := n }, rest)
  | .day => (number? 2 (trimLeft cs)).map fun (n, rest) => ({ f with day := n }, rest)
  | .hour => (number? 2 (trimLeft cs)).map fun (n, rest) => ({ f with hour := n }, rest)
  | .minute => (number? 2 (trimLeft cs)).map fun (n, rest) => ({ f with minute := n }, rest)
  | .second => (number? 2 (trimLeft cs)).map fun (n, rest) => ({ f with second := n }, rest)
  | .fraction =>
    match cs with
    | '.' :: rest => (fraction? rest).map fun (n, rest) => ({ f with nano := n }, rest)
    | _ => some (f, cs)
  | .mark c => (mark? c cs).map fun rest => (f, rest)
  | .gap => some (f, trimLeft cs)

/-- A layout fits a text that it uses up. -/
def readLayout (cs : List Char) (f : Fields) : List Part → Option Fields
  | [] => if cs.isEmpty then some f else none
  | part :: layout => do
    let (f, rest) ← part.read f cs
    readLayout rest f layout

def dateLayout : List Part := [.year, .mark '-', .month, .mark '-', .day]

def minuteLayout : List Part := [.hour, .mark ':', .minute]

def secondLayout : List Part := minuteLayout ++ [.mark ':', .second, .fraction]

/-- Layouts of a date and a time, in the order in which they are tried. -/
def timestampLayouts : List (List Part) :=
  [dateLayout ++ .mark 'T' :: secondLayout,
   dateLayout ++ .gap :: secondLayout,
   dateLayout ++ .mark 'T' :: minuteLayout,
   dateLayout ++ .gap :: minuteLayout]

/-- Minutes east of the time zone that timestamps are kept in: `Z`, or a sign, hours and minutes. -/
def offset? : List Char → Option (Int × List Char)
  | [] => none
  | c :: cs =>
    if c = 'Z' ∨ c = 'z' then some (0, cs)
    else if c = '+' ∨ c = '-' ∨ c = '\u2212' then do
      let (hours, cs) ← digits? 2 cs
      let cs ← mark? ':' cs
      let (minutes, cs) ← digits? 2 cs
      if hours < 24 ∧ minutes < 60 then
        let n : Int := hours * 60 + minutes
        some (if c = '+' then n else -n, cs)
      else none
    else none

/-- Between a date and a time: `T` or one space. -/
def separator? : List Char → Option (List Char)
  | c :: rest => if c = 'T' ∨ c = 't' ∨ c = ' ' then some rest else none
  | [] => none

/-- A timestamp with its offset: every field has its full width. -/
def readWithOffset (cs : List Char) : Option Timestamp := do
  let (year, cs) ← digits? 4 cs
  let (month, cs) ← digits? 2 (← mark? '-' cs)
  let (day, cs) ← digits? 2 (← mark? '-' cs)
  let (hour, cs) ← digits? 2 (← separator? cs)
  let (minute, cs) ← digits? 2 (← mark? ':' cs)
  let (second, cs) ← digits? 2 (← mark? ':' cs)
  let (nano, cs) ← match cs with
    | '.' :: rest => fraction? rest
    | _ => some (0, cs)
  let (offset, cs) ← offset? cs
  if cs.isEmpty then
    let t ← Fields.timestamp? ⟨year, month, day, hour, minute, second, nano⟩
    t.addSeconds? (-(60 * offset))
  else none

def readDate (cs : List Char) : Option Date := (readLayout cs {} dateLayout).bind Fields.date?

end IncidentBoard.Calendar

namespace IncidentBoard.Timestamp

open Calendar

def ofTrimmed? (cs : List Char) : Option Timestamp :=
  readWithOffset cs
    <|> timestampLayouts.findSome? (fun layout => (readLayout cs {} layout).bind Fields.timestamp?)
    <|> (readDate cs).map Date.midnight

/-- Reads a timestamp; a bare date is its midnight. -/
def parse? (s : String) : Option Timestamp := ofTrimmed? (Text.trim s.toList)

/-- Reads the last moment of a window: a bare date lasts to its last second. -/
def parseEnd? (s : String) : Option Timestamp :=
  match readDate (Text.trim s.toList) with
  | some d => ofClock? d 23 59 59 0
  | none => parse? s

end IncidentBoard.Timestamp
