import IncidentBoard.Calendar.Layout
import IncidentBoard.Decimal.Numeral
import IncidentBoard.Json.Document
import IncidentBoard.Toml.Value

/-! TOML strings and bare values. -/
namespace IncidentBoard.Toml

open Calendar

/-- Characters other than controls; a tab is none of these. -/
def isPlain (c : Char) : Bool := c == '\t' || (0x20 ≤ c.toNat && c.toNat != 0x7f)

/-! Strings. -/

/-- Where a text stands within an escape: at none, past a backslash, in a code of which `left`
digits are still to come, or in a gap between lines. -/
inductive Escape
  | none
  | begun
  | code (left value : Nat)
  | gap (broken : Bool)

def isScalar (n : Nat) : Bool := n < 0xd800 || (0xe000 ≤ n && n < 0x110000)

/-- A line feed, or the carriage return in front of one. -/
def endsLine (c : Char) : Bool := c == '\n' || c == '\r'

/-- The text that a written one stands for; carriage returns are there in front of line feeds
alone. -/
def unescape : Escape → List Char → Option (List Char)
  | .none, [] | .gap true, [] => some []
  | _, [] => Option.none
  | .none, c :: rest =>
      if c = '\\' then unescape .begun rest else (unescape .none rest).map (c :: ·)
  | .begun, c :: rest =>
    if c = 'x' then unescape (.code 2 0) rest
    else if c = 'u' then unescape (.code 4 0) rest
    else if c = 'U' then unescape (.code 8 0) rest
    else if c = ' ' ∨ c = '\t' then unescape (.gap false) rest
    else if endsLine c then unescape (.gap true) rest
    else if c = 'e' then (unescape .none rest).map ('\x1b' :: ·)
    else if c = '/' then Option.none
    else do return (← Document.shortEscape? c) :: (← unescape .none rest)
  | .code left value, c :: rest => do
    let value := 16 * value + (← Text.hexValue? c)
    if 1 < left then unescape (.code (left - 1) value) rest
    else if isScalar value then return Char.ofNat value :: (← unescape .none rest)
    else Option.none
  | .gap broken, c :: rest =>
    if c = ' ' ∨ c = '\t' then unescape (.gap broken) rest
    else if endsLine c then unescape (.gap true) rest
    else if !broken then Option.none
    else if c = '\\' then unescape .begun rest
    else (unescape .none rest).map (c :: ·)

/-- The text up to a closing quote on the same line; an escaped quote closes nothing. -/
def lineBody? (quote : Char) (escaped : Bool) : List Char → Option (List Char × List Char)
  | [] => none
  | c :: rest =>
    if !escaped && c == quote then some ([], rest)
    else if !isPlain c then none
    else
      (lineBody? quote (!escaped && c == '\\' && quote == '"') rest).map fun (body, rest) =>
        (c :: body, rest)

/-- The text up to three closing quotes; one or two more in front of them belong to it. Line ends
are kept as they are written. An escaped quote closes nothing. -/
def blockBody? (quote : Char) (escaped : Bool) : List Char → Option (List Char × List Char)
  | [] => none
  | '\r' :: '\n' :: rest =>
    (blockBody? quote false rest).map fun (body, rest) => ('\r' :: '\n' :: body, rest)
  | c :: rest =>
    if !escaped && [quote, quote, quote].isPrefixOf (c :: rest) then
      let closing := ((c :: rest).take 5).takeWhile (· == quote)
      some (closing.drop 3, (c :: rest).drop closing.length)
    else if !(isPlain c || c == '\n') then none
    else
      (blockBody? quote (!escaped && c == '\\' && quote == '"') rest).map fun (body, rest) =>
        (c :: body, rest)

def finishString (quote : Char) (body : List Char) : Option String :=
  if quote = '"' then (unescape .none body).map String.ofList else some (String.ofList body)

/-- A string on one line, after its opening quote. -/
def lineString? (quote : Char) (cs : List Char) : Option (String × List Char) := do
  let (body, rest) ← lineBody? quote false cs
  return (← finishString quote body, rest)

/-- A string over several lines, after its opening quotes; a line end right there is left out. -/
def blockString? (quote : Char) (cs : List Char) : Option (String × List Char) := do
  let (body, rest) ← blockBody? quote false (match cs with
    | '\n' :: rest => rest
    | '\r' :: '\n' :: rest => rest
    | _ => cs)
  return (← finishString quote body, rest)

/-! Numbers. -/

def digitIn? (base : Nat) (c : Char) : Option Nat := (Text.hexValue? c).filter (· < base)

/-- Digits onto `n`, with single underscores between two of them. -/
def groupedOnto? (base : Nat) (afterDigit : Bool) (n : Nat) : List Char → Option Nat
  | [] => if afterDigit then some n else none
  | c :: rest =>
    if c = '_' then if afterDigit then groupedOnto? base false n rest else none
    else do groupedOnto? base true (base * n + (← digitIn? base c)) rest

def grouped? (base : Nat) (cs : List Char) : Option Nat := groupedOnto? base false 0 cs

/-- A whole number without zeros in front. -/
def whole? : List Char → Option Nat
  | '0' :: rest => if rest.isEmpty then some 0 else none
  | cs => grouped? 10 cs

def unsigned : List Char → List Char
  | '+' :: rest | '-' :: rest => rest
  | cs => cs

def integer? : List Char → Option Int
  | '0' :: 'x' :: rest => (grouped? 16 rest).map Int.ofNat
  | '0' :: 'o' :: rest => (grouped? 8 rest).map Int.ofNat
  | '0' :: 'b' :: rest => (grouped? 2 rest).map Int.ofNat
  | '-' :: rest => (whole? rest).map fun n => -(n : Int)
  | '+' :: rest => (whole? rest).map Int.ofNat
  | cs => (whole? cs).map Int.ofNat

/-- Integers of more than 128 bits have no value. -/
def fitsInteger (n : Int) : Bool :=
  -170141183460469231731687303715884105728 ≤ n && n ≤ 340282366920938463463374607431768211455

/-- The two floats that are none are written by name. -/
def isNamedFloat (cs : List Char) : Bool :=
  let name := unsigned cs
  name == "inf".toList || name == "nan".toList

def isExponentMark (c : Char) : Bool := c == 'e' || c == 'E'

/-- A number with a point or an exponent. -/
def isFloat (cs : List Char) : Bool :=
  let cs := unsigned cs
  let mantissa := cs.takeWhile (!isExponentMark ·)
  let exponent := cs.drop mantissa.length
  let whole := mantissa.takeWhile (· != '.')
  let places := mantissa.drop whole.length
  (whole? whole).isSome && !(places.isEmpty && exponent.isEmpty) &&
    (places.isEmpty || (grouped? 10 places.tail).isSome) &&
    (exponent.isEmpty || (grouped? 10 (unsigned exponent.tail)).isSome)

/-- Whether a written float is finite as a double. -/
def fitsFloat (cs : List Char) : Bool := (Decimal.readFloat? (cs.filter (· != '_'))).isSome

/-! Moments. -/

def date? (cs : List Char) : Option (List Char) := do
  let (year, cs) ← digits? 4 cs
  let (month, cs) ← digits? 2 (← mark? '-' cs)
  let (day, cs) ← digits? 2 (← mark? '-' cs)
  let _ ← Date.ofYMD? year month day
  return cs

/-- Hours and minutes, perhaps seconds, perhaps with a fraction. -/
def time? (cs : List Char) : Option (List Char) := do
  let (hour, cs) ← digits? 2 cs
  let (minute, cs) ← digits? 2 (← mark? ':' cs)
  if hour < 24 ∧ minute < 60 then
    match cs with
    | ':' :: cs =>
      let (second, cs) ← digits? 2 cs
      if second ≤ 60 then
        match cs with
        | '.' :: cs => (fraction? cs).map Prod.snd
        | _ => some cs
      else none
    | _ => some cs
  else none

def isOffset (cs : List Char) : Bool :=
  cs.head? != some '\u2212' && (offset? cs).any fun (_, rest) => rest.isEmpty

/-- A date, a time, or both, then perhaps with an offset. -/
def isMoment (cs : List Char) : Bool :=
  time? cs == some [] ||
    match date? cs with
    | none => false
    | some [] => true
    | some rest =>
      match (separator? rest).bind time? with
      | none => false
      | some rest => rest.isEmpty || isOffset rest

/-! Bare values. -/

def isBare (c : Char) : Bool :=
  c.isAlphanum || c == '+' || c == '-' || c == '.' || c == '_' || c == ':'

/-- A run of bare characters; a space may stand between a date and a time. -/
def bareRun (cs : List Char) : List Char × List Char :=
  let (run, rest) := cs.span isBare
  match rest with
  | ' ' :: c :: more =>
    if date? run == some [] && c.isDigit then
      let (time, rest) := (c :: more).span isBare
      (run ++ ' ' :: time, rest)
    else (run, rest)
  | _ => (run, rest)

def bareValue? (cs : List Char) : Option Value :=
  if cs = "true".toList then some (.bool true)
  else if cs = "false".toList then some (.bool false)
  else if isNamedFloat cs then some .float
  else if isFloat cs then some (if fitsFloat cs then .float else .outOfRange)
  else if isMoment cs then some .moment
  else (integer? cs).map fun n => if fitsInteger n then .int n else .outOfRange

end IncidentBoard.Toml
