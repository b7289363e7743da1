/-! The fewest decimal digits that read back as a given double. -/
namespace IncidentBoard.Decimal

def pow2 (n : Nat) : Nat := Nat.pow 2 n

def pow10 (n : Nat) : Nat := Nat.pow 10 n

/-- A finite double: `mantissa * 2 ^ exponent`, with its sign. -/
structure Binary where
  negative : Bool
  mantissa : Nat
  exponent : Int
  deriving DecidableEq, Repr

/-- The fields of a double: one bit of sign, eleven of exponent, and the mantissa, whose first bit
is written only by the exponent. -/
def Binary.ofFloat? (x : Float) : Option Binary :=
  let bits := x.toBits.toNat
  let negative := bits / pow2 63 == 1
  let biased : Nat := bits / pow2 52 % 2048
  let fraction : Nat := bits % pow2 52
  if biased = 2047 then none
  else if biased = 0 then some ⟨negative, fraction, -1074⟩
  else some ⟨negative, fraction + pow2 52, (biased : Int) - 1075⟩

/-- `digits * 10 ^ exponent`. -/
structure Digits where
  digits : Nat
  exponent : Int
  deriving DecidableEq, Repr

/-- The numbers that round to a double lie between two halfway points. All three are counted in
quarters of the double's last place: `value`, and the ends at distances `below` and `above`, which
round to it as well if `closed`. -/
structure Span where
  value : Nat
  below : Nat
  above : Nat
  closed : Bool
  exponent : Int

/-- Below a power of two the doubles lie twice as close. -/
def Binary.span (b : Binary) : Span where
  value := 4 * b.mantissa
  below := if b.mantissa = pow2 52 ∧ -1074 < b.exponent then 1 else 2
  above := 2
  closed := b.mantissa % 2 == 0
  exponent := b.exponent - 2

/-- `a * 2 ^ p` and `b * 10 ^ q` as multiples of one unit. -/
def scaled (a : Nat) (p : Int) (b : Nat) (q : Int) : Nat × Nat :=
  (a * pow2 p.toNat * pow10 (-q).toNat, b * pow10 q.toNat * pow2 (-p).toNat)

/-- Whether `n * 10 ^ q` reads back as the double. -/
def Span.reads (s : Span) (n : Nat) (q : Int) : Bool :=
  let (low, m) := scaled (s.value - s.below) s.exponent n q
  let (high, _) := scaled (s.value + s.above) s.exponent n q
  if s.closed then low ≤ m && m ≤ high else low < m && m < high

/-- The multiple of `10 ^ q` nearest to the value among its two neighbours that read back, the even
one in the middle between them. -/
def Span.nearest? (s : Span) (q : Int) : Option Nat :=
  let (v, unit) := scaled s.value s.exponent 1 q
  let n := v / unit
  let twice := 2 * (v % unit)
  match s.reads n q && n != 0, s.reads (n + 1) q with
  | true, true => some (if twice < unit ∨ twice = unit ∧ n % 2 = 0 then n else n + 1)
  | true, false => some n
  | false, true => some (n + 1)
  | false, false => none

/-- The coarsest of `fuel` powers of ten, from `10 ^ q` down, with a multiple that reads back. -/
def Span.coarsest (s : Span) : Nat → Int → Digits
  | 0, q => ⟨0, q⟩
  | fuel + 1, q =>
    match s.nearest? q with
    | some n => ⟨n, q⟩
    | none => s.coarsest fuel (q - 1)

/-- An exponent of ten that lies above the value. -/
def Binary.magnitude (b : Binary) : Nat :=
  ((b.mantissa * pow2 b.exponent.toNat / pow2 (-b.exponent).toNat).log2 + 1) * 30103 / 100000 + 1

def Binary.shortest (b : Binary) : Digits :=
  if b.mantissa = 0 then ⟨0, 0⟩ else b.span.coarsest (b.magnitude + 345) b.magnitude

end IncidentBoard.Decimal
