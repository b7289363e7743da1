import IncidentBoard.Proofs.Text.Digits
import Mathlib.Data.List.Lex
import Mathlib.Tactic.Ring

/-! Numbers in digits are ordered as texts by the first digit that differs: as numbers if they have
equally many, and else as the decimal fractions with the same digits. -/
namespace IncidentBoard.Text

section Append

variable {as bs xs ys : List Char}

/-- Of two blocks of one length, the first character that differs decides, and what follows if there
is none. -/
theorem append_lt_append_iff (h : as.length = bs.length) :
    as ++ xs < bs ++ ys ↔ as < bs ∨ as = bs ∧ xs < ys := by
  induction as generalizing bs with
  | nil =>
    obtain rfl : bs = [] := List.eq_nil_of_length_eq_zero h.symm
    simp
  | cons a as ih =>
    cases bs with
    | nil => cases h
    | cons b bs =>
      rw [List.cons_append, List.cons_append, List.cons_lt_cons_iff, List.cons_lt_cons_iff,
        ih (Nat.succ.inj h), List.cons.injEq]
      tauto

/-- A mark that stands before all characters of the blocks ends them. -/
theorem append_cons_lt_append_cons_iff {c : Char} (has : ∀ a ∈ as, c < a) (hbs : ∀ b ∈ bs, c < b) :
    as ++ c :: xs < bs ++ c :: ys ↔ as < bs ∨ as = bs ∧ xs < ys := by
  induction as generalizing bs with
  | nil =>
    cases bs with
    | nil => simp
    | cons b bs =>
      have hb := hbs b List.mem_cons_self
      simp [List.cons_lt_cons_iff, hb]
  | cons a as ih =>
    have ha := has a List.mem_cons_self
    cases bs with
    | nil =>
      have hle : c ≤ a := Std.le_of_lt ha
      have hne : a ≠ c := (Char.ne_of_lt ha).symm
      simp [List.cons_lt_cons_iff, hle, hne]
    | cons b bs =>
      have hrest :=
        ih (fun a h => has a (List.mem_cons_of_mem _ h)) (fun b h =>
          hbs b (List.mem_cons_of_mem _ h))
      rw [List.cons_append, List.cons_append, List.cons_lt_cons_iff, List.cons_lt_cons_iff, hrest,
        List.cons.injEq]
      tauto

end Append

/-- `n` in `a` digits stands before `m` in `b` digits: its fraction `n / 10 ^ a` is smaller, or the
other one is longer and goes on with zeros. -/
def DigitsBefore (n a m b : Nat) : Prop := n * 10 ^ b < m * 10 ^ a ∨ n * 10 ^ b = m * 10 ^ a ∧ a < b

instance (n a m b : Nat) : Decidable (DigitsBefore n a m b) := inferInstanceAs (Decidable (_ ∨ _))

theorem digitsBefore_same {n m width : Nat} : DigitsBefore n width m width ↔ n < m := by
  have hpos : 0 < 10 ^ width := Nat.pow_pos (by decide)
  simp [DigitsBefore, Nat.mul_lt_mul_right hpos]

/-- A multiple and a remainder are ordered by the multiple first. -/
theorem mul_add_lt_mul_add_iff {w d e x y : Nat} (hx : x < w) (hy : y < w) :
    d * w + x < e * w + y ↔ d < e ∨ d = e ∧ x < y := by
  rcases Nat.lt_trichotomy d e with h | rfl | h
  · have hle : (d + 1) * w ≤ e * w := Nat.mul_le_mul_right w h
    rw [Nat.add_mul] at hle
    omega
  · simp
  · have hle : (e + 1) * w ≤ d * w := Nat.mul_le_mul_right w h
    rw [Nat.add_mul] at hle
    omega

/-- The first digit decides, unless both begin with the same one. -/
theorem digitsBefore_succ {d e k l a b : Nat} (hk : k < 10 ^ a) (hl : l < 10 ^ b) :
    DigitsBefore (d * 10 ^ a + k) (a + 1) (e * 10 ^ b + l) (b + 1) ↔ d < e ∨ d = e ∧
      DigitsBefore k a l b := by
  have hk' : k * 10 ^ b < 10 ^ a * 10 ^ b :=
    Nat.mul_lt_mul_of_pos_right hk (Nat.pow_pos (by decide))
  have hl' : l * 10 ^ a < 10 ^ a * 10 ^ b := by
    rw [Nat.mul_comm (10 ^ a)]
    exact Nat.mul_lt_mul_of_pos_right hl (Nat.pow_pos (by decide))
  have hleft : (d * 10 ^ a + k) * 10 ^ (b + 1) = 10 * (d * (10 ^ a * 10 ^ b) + k * 10 ^ b) := by
    ring
  have hright : (e * 10 ^ b + l) * 10 ^ (a + 1) = 10 * (e * (10 ^ a * 10 ^ b) + l * 10 ^ a) := by
    ring
  have hlt := mul_add_lt_mul_add_iff (d := d) (e := e) hk' hl'
  have hgt := mul_add_lt_mul_add_iff (d := e) (e := d) hl' hk'
  rw [DigitsBefore, DigitsBefore, hleft, hright]
  omega

section Digit

variable {d e : Char}

theorem digit_lt_iff (hd : d.isDigit) (he : e.isDigit) : d < e ↔ d.toNat - 48 < e.toNat - 48 := by
  have hd0 : 48 ≤ d.toNat := (Char.isDigit_iff_toNat.1 hd).1
  have he0 : 48 ≤ e.toNat := (Char.isDigit_iff_toNat.1 he).1
  have hlt : d < e ↔ d.toNat < e.toNat := UInt32.lt_iff_toNat_lt
  rw [hlt]
  omega

theorem digit_eq_iff (hd : d.isDigit) (he : e.isDigit) : d = e ↔ d.toNat - 48 = e.toNat - 48 := by
  have hd0 : 48 ≤ d.toNat := (Char.isDigit_iff_toNat.1 hd).1
  have he0 : 48 ≤ e.toNat := (Char.isDigit_iff_toNat.1 he).1
  rw [← Char.toNat_inj]
  omega

/-- Signs and the point stand before all digits. -/
theorem lt_digit (hd : d.toNat < 48) (he : e.isDigit) : d < e := by
  have he0 : 48 ≤ e.toNat := (Char.isDigit_iff_toNat.1 he).1
  exact UInt32.lt_iff_toNat_lt.2 (Nat.lt_of_lt_of_le hd he0)

end Digit

namespace Numeral

variable {n m : Nat} {ds es : List Char} {d : Char}

/-- The first digit counts for as many places as there are behind it. -/
theorem exists_tail (h : Numeral n (d :: ds)) :
    ∃ k, Numeral k ds ∧ d.isDigit ∧ n = (d.toNat - 48) * 10 ^ ds.length + k := by
  obtain ⟨hd, hds⟩ := List.forall_mem_cons.1 h.digits
  refine ⟨Nat.ofDigitChars 10 ds 0, ⟨hds, rfl⟩, hd, ?_⟩
  rw [← h.value, Nat.ofDigitChars_cons, Nat.ofDigitChars_eq_ofDigitChars_zero, Nat.mul_zero,
    Nat.zero_add, Nat.mul_comm]
  rfl

theorem lt_pow (h : Numeral n ds) : n < 10 ^ ds.length := by
  induction ds generalizing n with
  | nil =>
    rw [← h.value]
    exact Nat.one_pos
  | cons d ds ih =>
    obtain ⟨k, hk, hd, rfl⟩ := h.exists_tail
    have hd9 : d.toNat - 48 + 1 ≤ 10 := by
      have hle : d.toNat ≤ 57 := (Char.isDigit_iff_toNat.1 hd).2
      omega
    have hlt := ih hk
    calc (d.toNat - 48) * 10 ^ ds.length + k
      _ < (d.toNat - 48) * 10 ^ ds.length + 10 ^ ds.length := Nat.add_lt_add_left hlt _
      _ = (d.toNat - 48 + 1) * 10 ^ ds.length := by ring
      _ ≤ 10 * 10 ^ ds.length := Nat.mul_le_mul_right _ hd9
      _ = 10 ^ (d :: ds).length := by rw [List.length_cons, Nat.pow_succ, Nat.mul_comm]

theorem lt_iff (hds : Numeral n ds) (hes : Numeral m es) :
    ds < es ↔ DigitsBefore n ds.length m es.length := by
  induction ds generalizing n m es with
  | nil =>
    obtain rfl : 0 = n := hds.value
    cases es with
    | nil =>
      obtain rfl : 0 = m := hes.value
      simp [DigitsBefore]
    | cons e es =>
      have hm := Nat.eq_zero_or_pos m
      simpa [DigitsBefore, eq_comm] using hm.symm
  | cons d ds ih =>
    obtain ⟨k, hk, hd, rfl⟩ := hds.exists_tail
    cases es with
    | nil =>
      obtain rfl : 0 = m := hes.value
      simp [DigitsBefore]
    | cons e es =>
      obtain ⟨l, hl, he, rfl⟩ := hes.exists_tail
      rw [List.cons_lt_cons_iff, List.length_cons, List.length_cons,
        digitsBefore_succ hk.lt_pow hl.lt_pow, ← ih hk hl, digit_lt_iff hd he, digit_eq_iff hd he]

theorem eq_of_length (hds : Numeral n ds) (hes : Numeral n es) (h : ds.length = es.length) :
    ds = es := by
  have hds' := hds.lt_iff hes
  have hes' := hes.lt_iff hds
  rw [h, digitsBefore_same] at hds' hes'
  rcases Std.lt_trichotomy ds es with hlt | heq | hgt
  · exact absurd (hds'.1 hlt) (Nat.lt_irrefl n)
  · exact heq
  · exact absurd (hes'.1 hgt) (Nat.lt_irrefl n)

/-- Fields of one width are ordered by their numbers first. -/
theorem append_lt_append_iff {xs ys : List Char} (hds : Numeral n ds) (hes : Numeral m es)
    (h : ds.length = es.length) : ds ++ xs < es ++ ys ↔ n < m ∨ n = m ∧ xs < ys := by
  have hlt : ds < es ↔ n < m := by rw [hds.lt_iff hes, h, digitsBefore_same]
  have heq : ds = es ↔ n = m := by
    constructor
    · rintro rfl
      exact hds.value.symm.trans hes.value
    · rintro rfl
      exact hds.eq_of_length hes h
  rw [Text.append_lt_append_iff h, hlt, heq]

end Numeral

section Padded

variable {n m : Nat} {xs ys : List Char}

theorem padded_two_lt_iff (hn : n < 100) (hm : m < 100) :
    padded 2 n ++ xs < padded 2 m ++ ys ↔ n < m ∨ n = m ∧ xs < ys :=
  numeral_padded.append_lt_append_iff numeral_padded
    ((length_padded (by decide) hn).trans (length_padded (by decide) hm).symm)

/-- Digits up to a dash, which stands before all digits. -/
theorem padded_dash_lt_iff {width : Nat} :
    padded width n ++ '-' :: xs < padded width m ++ '-' :: ys ↔
    DigitsBefore n (padded width n).length m (padded width m).length ∨ n = m ∧ xs < ys := by
  have hdash (n : Nat) : ∀ c ∈ padded width n, '-' < c :=
    fun c hc => lt_digit (by decide) (isDigit_of_mem_padded hc)
  have heq : padded width n = padded width m ↔ n = m := by
    constructor
    · intro h
      exact (h ▸ numeral_padded : Numeral n (padded width m)).value.symm.trans numeral_padded.value
    · exact congrArg (padded width)
  rw [append_cons_lt_append_cons_iff (hdash n) (hdash m), numeral_padded.lt_iff numeral_padded, heq]

end Padded

end IncidentBoard.Text
