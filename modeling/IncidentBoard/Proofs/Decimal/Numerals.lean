import IncidentBoard.Decimal.Numeral
import IncidentBoard.Decimal.Style
import IncidentBoard.Proofs.Text.Digits
import Mathlib.Algebra.Order.Field.Rat
import Mathlib.Data.Int.Cast.Lemmas

/-! Numerals: the texts that integers and decimal numbers are read from, and doubles that are
integers. -/
namespace IncidentBoard

namespace Text

variable {ds rest : List Char}

theorem scanNat_append (hds : ∀ c ∈ ds, c.isDigit) (hrest : ∀ c ∈ rest.head?, digitValue? c = none)
    (n : Nat) : scanNat (ds ++ rest) n = (Nat.ofDigitChars 10 ds n, ds.length, rest) := by
  rw [scanNat, scanDigits_append hds (by simp) fun _ => hrest, Nat.zero_add]

/-- What is scanned is the run of digits in front. -/
theorem exists_scanNat (cs : List Char) (n : Nat) : ∃ ds rest, cs = ds ++ rest ∧
    (∀ c ∈ ds, c.isDigit) ∧ (∀ c ∈ rest.head?, digitValue? c = none) ∧
      scanNat cs n = (Nat.ofDigitChars 10 ds n, ds.length, rest) := by
  obtain ⟨ds, rest, rfl, hds, -, hrest⟩ := exists_digits (cs.length + 1) cs
  have hrest := hrest (by simp only [List.length_append]; omega)
  exact ⟨ds, rest, rfl, hds, hrest, scanNat_append hds hrest n⟩

end Text

namespace Decimal

open Text

/-- A sign, or none. -/
inductive SignText : Bool → List Char → Prop
  | bare : SignText false []
  | plus : SignText false ['+']
  | minus : SignText true ['-']

/-- An integer in digits, with a sign or without. -/
inductive IntegerText : Int → List Char → Prop
  | mk {negative : Bool} {n : Nat} {sign ds : List Char} (hsign : SignText negative sign)
      (hpos : 0 < ds.length) (h : Numeral n ds) :
      IntegerText (if negative then -(n : Int) else n) (sign ++ ds)

/-- An exponent behind an `e`; none is zero. -/
inductive ExponentText : Int → List Char → Prop
  | zero : ExponentText 0 []
  | marked {e : Int} {c : Char} {cs : List Char} (hmark : c = 'e' ∨ c = 'E')
      (h : IntegerText e cs) :
      ExponentText e (c :: cs)

/-- A decimal number: a sign, digits with a point among or beside them, an exponent. Each digit
behind the point takes one from the exponent. -/
inductive DecimalText : Bool → Digits → List Char → Prop
  | whole {negative : Bool} {n : Nat} {e : Int} {sign ds tail : List Char}
      (hsign : SignText negative sign) (hpos : 0 < ds.length) (h : Numeral n ds)
      (hexponent : ExponentText e tail) : DecimalText negative ⟨n, e⟩ (sign ++ (ds ++ tail))
  | point {negative : Bool} {n : Nat} {e : Int} {sign ds places tail : List Char}
      (hsign : SignText negative sign) (hpos : 0 < (ds ++ places).length)
      (h : Numeral n (ds ++ places)) (hexponent : ExponentText e tail) :
      DecimalText negative ⟨n, e - places.length⟩ (sign ++ (ds ++ '.' :: (places ++ tail)))

section Reading

variable {negative : Bool} {n e : Int} {cs rest : List Char} {d : Digits}

theorem exists_sign (cs : List Char) : ∃ negative s rest, SignText negative s ∧ cs = s ++ rest ∧
    sign cs = (negative, rest) := by
  unfold sign
  split
  · exact ⟨true, ['-'], _, .minus, rfl, rfl⟩
  · exact ⟨false, ['+'], _, .plus, rfl, rfl⟩
  · exact ⟨false, [], _, .bare, rfl, rfl⟩

theorem SignText.sign_append {s : List Char} (h : SignText negative s)
    (hrest : ∀ c ∈ rest.head?, c ≠ '-' ∧ c ≠ '+') : sign (s ++ rest) = (negative, rest) := by
  cases h with
  | bare =>
    cases rest with
    | nil => rfl
    | cons c rest =>
      obtain ⟨hminus, hplus⟩ := hrest c rfl
      rw [List.nil_append, sign]
      · exact fun _ h => hminus (List.cons.inj h).1
      · exact fun _ h => hplus (List.cons.inj h).1
  | plus | minus => rfl

theorem ne_sign_of_isDigit {c : Char} (h : c.isDigit) : c ≠ '-' ∧ c ≠ '+' := by
  constructor <;> rintro rfl <;> cases h

theorem readInt?_eq_some : readInt? cs = some n ↔ IntegerText n cs := by
  constructor
  · intro h
    obtain ⟨negative, s, rest, hsign, rfl, hread⟩ := exists_sign cs
    obtain ⟨ds, rest, rfl, hdigits, -, hscan⟩ := exists_scanNat rest 0
    unfold readInt? at h
    rw [hread] at h
    dsimp only at h
    rw [hscan] at h
    split at h
    · next heq =>
      cases h
      simp only [Prod.mk.injEq] at heq
      obtain ⟨rfl, hlength, rfl⟩ := heq
      rw [List.append_nil]
      exact .mk hsign (by omega) ⟨hdigits, rfl⟩
    · cases h
  · rintro ⟨hsign, hpos, h⟩
    next sign ds =>
    have hhead : ∀ c ∈ ds.head?, c ≠ '-' ∧ c ≠ '+' := fun c hc =>
      ne_sign_of_isDigit (h.digits c (List.mem_of_mem_head? hc))
    have hscan : scanNat (ds ++ []) 0 = _ := scanNat_append h.digits (by simp) 0
    obtain ⟨k, hk⟩ := Nat.exists_eq_succ_of_ne_zero (Nat.ne_of_gt hpos)
    rw [List.append_nil, h.value, hk] at hscan
    unfold readInt?
    rw [hsign.sign_append hhead]
    dsimp only
    rw [hscan]

theorem readExponent?_eq_some : readExponent? cs = some e ↔ ExponentText e cs := by
  constructor
  · intro h
    unfold readExponent? at h
    split at h
    · cases h
      exact .zero
    · split at h
      · next hmark => exact .marked hmark (readInt?_eq_some.1 h)
      · cases h
  · rintro (_ | ⟨hmark, h⟩)
    · rfl
    · rw [readExponent?, if_pos hmark]
      exact readInt?_eq_some.2 h

/-- An exponent begins with neither a digit nor a point. -/
theorem ExponentText.head (h : ExponentText e cs) :
    ∀ c ∈ cs.head?, digitValue? c = none ∧ c ≠ '.' := by
  cases h with
  | zero => simp
  | marked hmark _ =>
    rintro c hc
    cases hc
    rcases hmark with rfl | rfl <;> decide

theorem exists_of_readDigits? (h : readDigits? cs = some (negative, d)) :
    DecimalText negative d cs := by
  obtain ⟨negative', s, rest, hsign, rfl, hread⟩ := exists_sign cs
  obtain ⟨ds, rest, rfl, hdigits, -, hscan⟩ := exists_scanNat rest 0
  unfold readDigits? at h
  rw [hread] at h
  dsimp only at h
  rw [hscan] at h
  dsimp only at h
  split at h
  · next rest =>
    obtain ⟨places, tail, rfl, hplaces, -, hscan⟩ :=
      exists_scanNat rest (Nat.ofDigitChars 10 ds 0)
    rw [hscan] at h
    dsimp only at h
    split at h
    · cases h
    · next hsome =>
      obtain ⟨e, he, h⟩ := Option.bind_eq_some_iff.1 h
      cases h
      refine .point hsign (by rw [List.length_append]; omega) ⟨?_, ?_⟩ (readExponent?_eq_some.1 he)
      · exact List.forall_mem_append.2 ⟨hdigits, hplaces⟩
      · rw [Nat.ofDigitChars_append]
  · split at h
    · cases h
    · next hsome =>
      obtain ⟨e, he, h⟩ := Option.bind_eq_some_iff.1 h
      cases h
      simp only [Nat.add_zero, Int.natCast_zero, Int.sub_zero] at hsome ⊢
      exact .whole hsign (by omega) ⟨hdigits, rfl⟩ (readExponent?_eq_some.1 he)

theorem DecimalText.readDigits? (h : DecimalText negative d cs) :
    readDigits? cs = some (negative, d) := by
  cases h with
  | @whole n e sign ds tail hsign hpos h hexponent =>
    have hhead : ∀ c ∈ (ds ++ tail).head?, c ≠ '-' ∧ c ≠ '+' := by
      obtain ⟨c, ds', rfl, hc⟩ := h.exists_cons hpos
      simpa using ne_sign_of_isDigit hc
    have hscan := scanNat_append h.digits (fun c hc => (hexponent.head c hc).1) 0
    unfold Decimal.readDigits?
    rw [hsign.sign_append hhead]
    dsimp only
    rw [hscan]
    dsimp only
    split
    · next rest => exact absurd rfl (hexponent.head '.' rfl).2
    · rw [if_neg (by omega), readExponent?_eq_some.2 hexponent, h.value]
      simp
  | @point n e sign ds places tail hsign hpos h hexponent =>
    obtain ⟨hds, hplaces⟩ := List.forall_mem_append.1 h.digits
    have hhead : ∀ c ∈ (ds ++ '.' :: (places ++ tail)).head?, c ≠ '-' ∧ c ≠ '+' := by
      cases ds with
      | nil => simp
      | cons c ds => simpa using ne_sign_of_isDigit (hds c List.mem_cons_self)
    have hscan : scanNat (ds ++ '.' :: (places ++ tail)) 0 = _ :=
      scanNat_append hds (by simp; rfl) 0
    have hscanPlaces := scanNat_append hplaces (fun c hc => (hexponent.head c hc).1)
      (Nat.ofDigitChars 10 ds 0)
    rw [List.length_append] at hpos
    have hvalue := h.value
    rw [Nat.ofDigitChars_append] at hvalue
    unfold Decimal.readDigits?
    rw [hsign.sign_append hhead]
    simp only [hscan, hscanPlaces, hvalue, readExponent?_eq_some.2 hexponent]
    rw [if_neg (by omega)]
    rfl

/-- A double is read from a decimal number that is near to a finite one. -/
theorem readFloat?_eq_some {x : Float} : readFloat? cs = some x ↔ ∃ negative d,
    DecimalText negative d cs ∧ (toFloat d.digits d.exponent).isFinite ∧
      x = if negative then -toFloat d.digits d.exponent else toFloat d.digits d.exponent := by
  simp only [readFloat?, Option.bind_eq_bind, Option.bind_eq_some_iff, Prod.exists]
  constructor
  · rintro ⟨negative, d, hd, h⟩
    split at h
    · next hfinite =>
      cases h
      exact ⟨negative, d, exists_of_readDigits? hd, hfinite, rfl⟩
    · cases h
  · rintro ⟨negative, d, hd, hfinite, rfl⟩
    exact ⟨negative, d, hd.readDigits?, if_pos hfinite⟩

end Reading

section Integers

/-- The number that a finite double is. -/
def Binary.value (b : Binary) : Rat :=
  (if b.negative then -(b.mantissa : Rat) else b.mantissa) * (2 : Rat) ^ b.exponent

theorem zpow_two_eq (e : Int) : (2 : Rat) ^ e = (pow2 e.toNat : Rat) / (pow2 (-e).toNat : Rat) := by
  rcases Int.le_total 0 e with h | h
  · obtain ⟨k, rfl⟩ := Int.eq_ofNat_of_zero_le h
    simp [pow2]
  · obtain ⟨k, hk⟩ := Int.eq_ofNat_of_zero_le (Int.neg_nonneg_of_nonpos h)
    obtain rfl : e = -(k : Int) := by omega
    simp [pow2]

/-- A double is an integer exactly if it is read as that. -/
theorem Binary.toInt?_eq_some {b : Binary} {n : Int} : b.toInt? = some n ↔ b.value = n := by
  obtain ⟨negative, m, e⟩ := b
  have hden : 0 < pow2 (-e).toNat := Nat.pow_pos (by decide)
  have hcleared : (Binary.mk negative m e).value = n ↔
      (if negative then -((m * pow2 e.toNat : Nat) : Int) else (m * pow2 e.toNat : Nat)) =
        n * (pow2 (-e).toNat : Nat) := by
    have hden' : (pow2 (-e).toNat : Rat) ≠ 0 := by exact_mod_cast hden.ne'
    rw [value, zpow_two_eq, ← mul_div_assoc, div_eq_iff hden', ← Int.cast_inj (α := Rat)]
    cases negative <;> simp
  rw [hcleared, toInt?]
  dsimp only
  generalize m * pow2 e.toNat = num
  generalize pow2 (-e).toNat = den at hden
  split
  · next hdvd =>
    obtain ⟨k, rfl⟩ := Nat.dvd_of_mod_eq_zero hdvd
    have hden' : den ≠ 0 := by omega
    rw [Nat.mul_div_cancel_left k hden, Option.some.injEq]
    cases negative
    · simp [mul_comm (den : Int), hden']
    · simp [mul_comm (den : Int), ← neg_mul, hden']
  · next hdvd =>
    refine ⟨nofun, fun h => absurd ?_ hdvd⟩
    have hsplit : (den : Int) ∣ num := by
      cases negative
      · exact ⟨n, by simpa [mul_comm] using h⟩
      · exact ⟨-n, by simp only [if_true] at h; rw [mul_neg, mul_comm, ← h, neg_neg]⟩
    exact Nat.mod_eq_zero_of_dvd (by exact_mod_cast hsplit)

end Integers

end Decimal

end IncidentBoard
