import IncidentBoard.Decimal.Shortest

/-! Texts of doubles: shortest digits, and a fixed number of places. -/
namespace IncidentBoard.Decimal

/-- How an exponent is marked when one is written. -/
structure Style where
  plusSign : Bool

/-- JSON numbers mark a positive exponent: `1e+20`. -/
def Style.json : Style := ⟨true⟩

/-- SQL literals do not: `1e20`. -/
def Style.sql : Style := ⟨false⟩

def Style.exponent (style : Style) (n : Int) : List Char :=
  if n < 0 then '-' :: Nat.toDigits 10 n.natAbs
  else if style.plusSign then '+' :: Nat.toDigits 10 n.natAbs
  else Nat.toDigits 10 n.natAbs

/-- Positional from `0.00001` up to sixteen digits before the point, with a point in any case;
otherwise one digit, the rest after a point, and an exponent. -/
def Style.digits (style : Style) (d : Digits) : List Char :=
  if d.digits = 0 then ['0', '.', '0']
  else
    let ds := Nat.toDigits 10 d.digits
    let point := (ds.length : Int) + d.exponent
    if 0 ≤ d.exponent ∧ point ≤ 16 then ds ++ List.replicate d.exponent.toNat '0' ++ ['.', '0']
    else if 0 < point ∧ point ≤ 16 then ds.take point.toNat ++ '.' :: ds.drop point.toNat
    else if -5 < point ∧ point ≤ 0 then '0' :: '.' :: (List.replicate (-point).toNat '0' ++ ds)
    else
      let tail := ds.drop 1
      ds.take 1 ++ (if tail.isEmpty then [] else '.' :: tail) ++ 'e' :: style.exponent (point - 1)

def signed (negative : Bool) (cs : List Char) : List Char := if negative then '-' :: cs else cs

def Style.binary (style : Style) (b : Binary) : String :=
  String.ofList (signed b.negative (style.digits b.shortest))

def Style.render? (style : Style) (x : Float) : Option String :=
  (Binary.ofFloat? x).map style.binary

/-- `num / den` to the nearest integer, halves to the even one. -/
def roundEven (num den : Nat) : Nat :=
  let n := num / den
  let twice := 2 * (num % den)
  if twice < den ∨ twice = den ∧ n % 2 = 0 then n else n + 1

/-- The value with `places` digits after the point; a value that rounds to zero keeps its sign. -/
def Binary.fixed (b : Binary) (places : Nat) : String :=
  let n := roundEven (b.mantissa * pow2 b.exponent.toNat * pow10 places) (pow2 (-b.exponent).toNat)
  let ds := Nat.toDigits 10 n
  let ds := List.replicate (places + 1 - ds.length) '0' ++ ds
  let whole := ds.length - places
  String.ofList (signed b.negative (ds.take whole ++ '.' :: ds.drop whole))

/-- The value if it is an integer. -/
def Binary.toInt? (b : Binary) : Option Int :=
  let den := pow2 (-b.exponent).toNat
  let num := b.mantissa * pow2 b.exponent.toNat
  if num % den = 0 then
    let n : Int := (num / den : Nat)
    some (if b.negative then -n else n)
  else none

end IncidentBoard.Decimal
