/-! Decimal and hexadecimal digits. -/
namespace IncidentBoard.Text

def digitValue? (c : Char) : Option Nat :=
  if '0' ≤ c ∧ c ≤ '9' then some (c.toNat - 48) else none

/-- The longest run of digits, of `max` at most, read onto `n`; `taken` digits stand before it. -/
def scanDigits : Nat → List Char → Nat → Nat → Nat × Nat × List Char
  | 0, cs, n, taken => (n, taken, cs)
  | _ + 1, [], n, taken => (n, taken, [])
  | max + 1, c :: cs, n, taken =>
    match digitValue? c with
    | some d => scanDigits max cs (10 * n + d) (taken + 1)
    | none => (n, taken, c :: cs)

/-- The longest run of digits, read onto `n`, and its length. -/
def scanNat (cs : List Char) (n : Nat) : Nat × Nat × List Char := scanDigits cs.length cs n 0

/-- Decimal digits, with zeros in front up to the width. -/
def padded (width n : Nat) : List Char :=
  let ds := Nat.toDigits 10 n
  List.replicate (width - ds.length) '0' ++ ds

/-- A hexadecimal digit, in upper or lower case. -/
def hexValue? (c : Char) : Option Nat :=
  if '0' ≤ c ∧ c ≤ '9' then some (c.toNat - 48)
  else if 'a' ≤ c ∧ c ≤ 'f' then some (c.toNat - 87)
  else if 'A' ≤ c ∧ c ≤ 'F' then some (c.toNat - 55)
  else none

end IncidentBoard.Text
