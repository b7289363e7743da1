import IncidentBoard.Decimal.Shortest
import IncidentBoard.Text.Digit
import IncidentBoard.Word

/-! Reading numbers out of texts. -/
namespace IncidentBoard.Decimal

open Text

/-- `digits * 10 ^ exponent` rounded to the nearest double. Beyond the bounds every number rounds to
infinity or to zero. -/
def toFloat (digits : Nat) (exponent : Int) : Float :=
  if digits = 0 then 0
  else
    let magnitude := exponent + (Nat.toDigits 10 digits).length
    if 400 < magnitude then Float.ofScientific 1 false 400
    else if magnitude < -400 then 0
    else if 0 ≤ exponent then Float.ofScientific digits false exponent.toNat
    else Float.ofScientific digits true exponent.natAbs

def sign : List Char → Bool × List Char
  | '-' :: cs => (true, cs)
  | '+' :: cs => (false, cs)
  | cs => (false, cs)

/-- The whole text is an optional sign and digits. -/
def readInt? (cs : List Char) : Option Int :=
  let (negative, cs) := sign cs
  match scanNat cs 0 with
  | (n, _ + 1, []) => some (if negative then -(n : Int) else n)
  | _ => none

def readInt64? (cs : List Char) : Option Int := (readInt? cs).filter Word.isSigned

/-- An exponent, if one is there. -/
def readExponent? : List Char → Option Int
  | [] => some 0
  | c :: cs => if c = 'e' ∨ c = 'E' then readInt? cs else none

/-- A decimal number: a sign, digits with or without a point, an exponent. -/
def readDigits? (cs : List Char) : Option (Bool × Digits) := do
  let (negative, cs) := sign cs
  let (n, whole, cs) := scanNat cs 0
  let (n, places, cs) := match cs with
    | '.' :: rest => scanNat rest n
    | _ => (n, 0, cs)
  if whole + places = 0 then none
  else
    let e ← readExponent? cs
    some (negative, ⟨n, e - places⟩)

/-- The double nearest to a decimal number, if it is finite. -/
def readFloat? (cs : List Char) : Option Float := do
  let (negative, d) ← readDigits? cs
  let x := toFloat d.digits d.exponent
  if x.isFinite then some (if negative then -x else x) else none

end IncidentBoard.Decimal
