import IncidentBoard.Calendar.Layout
import IncidentBoard.Calendar.Text
import Mathlib.Algebra.Group.Nat.Defs

/-! Numbers: what is written is read, and what is read was written. -/
namespace IncidentBoard

namespace Text

theorem digitValue?_of_isDigit {c : Char} (h : c.isDigit) :
    digitValue? c = some (c.toNat - 48) := by
  rw [Char.isDigit, Bool.and_eq_true, decide_eq_true_eq, decide_eq_true_eq] at h
  exact if_pos h

theorem isDigit_of_digitValue? {c : Char} {n : Nat} (h : digitValue? c = some n) : c.isDigit := by
  unfold digitValue? at h
  split at h
  · next hc =>
    rw [Char.isDigit, Bool.and_eq_true, decide_eq_true_eq, decide_eq_true_eq]
    exact hc
  · cases h

/-- The run of digits in front, of `max` at most. -/
theorem exists_digits (max : Nat) (cs : List Char) :
    ∃ ds rest, cs = ds ++ rest ∧ (∀ c ∈ ds, c.isDigit) ∧ ds.length ≤ max ∧
      (ds.length < max → ∀ c ∈ rest.head?, digitValue? c = none) := by
  induction cs generalizing max with
  | nil => exact ⟨[], [], rfl, List.forall_mem_nil _, Nat.zero_le _, fun _ => nofun⟩
  | cons c cs ih =>
    have hnothing (h : 0 < max → digitValue? c = none) :
        ∃ ds rest, c :: cs = ds ++ rest ∧ (∀ c ∈ ds, c.isDigit) ∧
        ds.length ≤ max ∧ (ds.length < max → ∀ c ∈ rest.head?, digitValue? c = none) := by
      refine ⟨[], c :: cs, rfl, List.forall_mem_nil _, Nat.zero_le _, fun hlt x hx => ?_⟩
      cases hx
      exact h hlt
    cases max with
    | zero => exact hnothing fun h => absurd h (Nat.lt_irrefl 0)
    | succ max =>
      cases hc : digitValue? c with
      | none => exact hnothing fun _ => hc
      | some n =>
        obtain ⟨ds, rest, rfl, hds, hmax, hrest⟩ := ih max
        exact ⟨c :: ds, rest, rfl, List.forall_mem_cons.2 ⟨isDigit_of_digitValue? hc, hds⟩,
          Nat.succ_le_succ hmax, fun hlt => hrest (Nat.lt_of_succ_lt_succ hlt)⟩

/-- A run of digits is read to its end, which is where no more may be read, or where no digit
follows. -/
theorem scanDigits_append {ds rest : List Char} (hds : ∀ c ∈ ds, c.isDigit) {max : Nat}
    (hmax : ds.length ≤ max) (hrest : ds.length < max → ∀ c ∈ rest.head?, digitValue? c = none)
    (n taken : Nat) :
    scanDigits max (ds ++ rest) n taken = (Nat.ofDigitChars 10 ds n, taken + ds.length, rest) := by
  induction ds generalizing max n taken with
  | nil =>
    cases max with
    | zero => rfl
    | succ max =>
      cases rest with
      | nil => rfl
      | cons c rest =>
        have hc := hrest (Nat.zero_lt_succ max) c rfl
        rw [List.nil_append, scanDigits, hc]
        rfl
  | cons c ds ih =>
    obtain ⟨hc, hds⟩ := List.forall_mem_cons.1 hds
    have hzero : '0'.toNat = 48 := rfl
    cases max with
    | zero => cases hmax
    | succ max =>
      rw [List.length_cons, Nat.succ_le_succ_iff] at hmax
      rw [List.cons_append, scanDigits, digitValue?_of_isDigit hc]
      dsimp only
      rw [ih hds hmax fun hlt => hrest (Nat.succ_lt_succ hlt), Nat.ofDigitChars_cons, hzero,
        List.length_cons, Nat.add_assoc, Nat.add_comm 1]

/-- A number in digits, zeros in front included. -/
structure Numeral (n : Nat) (ds : List Char) : Prop where
  digits : ∀ c ∈ ds, c.isDigit
  value : Nat.ofDigitChars 10 ds 0 = n

theorem Numeral.scanDigits_append {n : Nat} {ds rest : List Char} (h : Numeral n ds) {max : Nat}
    (hmax : ds.length ≤ max) (hrest : ds.length < max → ∀ c ∈ rest.head?, digitValue? c = none) :
    scanDigits max (ds ++ rest) 0 0 = (n, ds.length, rest) := by
  rw [Text.scanDigits_append h.digits hmax hrest, h.value, Nat.zero_add]

theorem Numeral.exists_cons {n : Nat} {ds : List Char} (h : Numeral n ds) (hpos : 0 < ds.length) :
    ∃ d ds', ds = d :: ds' ∧ d.isDigit := by
  obtain ⟨d, ds', rfl⟩ := List.exists_cons_of_length_pos hpos
  exact ⟨d, ds', rfl, h.digits d List.mem_cons_self⟩

section Padded

variable {width n : Nat}

theorem length_padded (hw : 0 < width) (h : n < 10 ^ width) : (padded width n).length = width := by
  have hle := (Nat.length_toDigits_le_iff (by decide) hw).2 h
  simp only [padded, List.length_append, List.length_replicate]
  omega

theorem isDigit_of_mem_padded {c : Char} (h : c ∈ padded width n) : c.isDigit := by
  rcases List.mem_append.1 h with h | h
  · rw [List.eq_of_mem_replicate h]
    rfl
  · exact Nat.isDigit_of_mem_toDigits (by decide) (by decide) h

theorem le_length_padded : width ≤ (padded width n).length := by
  simp only [padded, List.length_append, List.length_replicate]
  omega

theorem numeral_padded : Numeral n (padded width n) where
  digits _ := isDigit_of_mem_padded
  value := by
    rw [padded, Nat.ofDigitChars_append, Nat.ofDigitChars_replicate_zero, Nat.mul_zero,
      Nat.ofDigitChars_ten_toDigits]

end Padded

theorem padded_two_zero : padded 2 0 = ['0', '0'] := rfl

theorem padded_two_one : padded 2 1 = ['0', '1'] := rfl

end Text

namespace Calendar

open Text

section Numeral

variable {n max : Nat} {ds rest : List Char}

theorem digits?_numeral (h : Numeral n ds) (rest : List Char) :
    digits? ds.length (ds ++ rest) = some (n, rest) := by
  rw [digits?, h.scanDigits_append (Nat.le_refl _) fun hlt => absurd hlt (Nat.lt_irrefl _)]
  exact if_pos rfl

theorem number?_numeral (h : Numeral n ds) (hpos : 0 < ds.length) (hmax : ds.length ≤ max)
    (hrest : ds.length < max → ∀ c ∈ rest.head?, digitValue? c = none) :
    number? max (ds ++ rest) = some (n, rest) := by
  rw [number?, h.scanDigits_append hmax hrest]
  exact if_neg (Nat.ne_of_gt hpos)

theorem fraction?_numeral (h : Numeral n ds) (hpos : 0 < ds.length) (hmax : ds.length ≤ 9) :
    fraction? ds = some (n * 10 ^ (9 - ds.length), []) := by
  have hscan : scanDigits 9 (ds ++ []) 0 0 = (n, ds.length, []) := h.scanDigits_append hmax nofun
  rw [List.append_nil] at hscan
  rw [fraction?, hscan]
  exact if_neg (Nat.ne_of_gt hpos)

end Numeral

theorem digits?_padded {width n : Nat} (hw : 0 < width) (h : n < 10 ^ width) (rest : List Char) :
    digits? width (padded width n ++ rest) = some (n, rest) := by
  have hread := digits?_numeral (numeral_padded : Numeral n (padded width n)) rest
  rwa [length_padded hw h] at hread

/-- Fields of a clock and of a day of a year. -/
theorem digits?_two {n : Nat} (h : n < 100) (rest : List Char) :
    digits? 2 (padded 2 n ++ rest) = some (n, rest) :=
  digits?_padded (by decide) h rest

theorem mark?_self (c : Char) (rest : List Char) : mark? c (c :: rest) = some rest := if_pos rfl

/-- A number of at most `max` digits. -/
structure NumberText (max n : Nat) (ds : List Char) : Prop where
  pos : 0 < ds.length
  le : ds.length ≤ max
  numeral : Numeral n ds

/-- Four digits at most, or any number of them behind a sign. -/
inductive YearText (year : Int) : List Char → Prop
  | plain {ds : List Char} (hyear : 0 ≤ year) (h : NumberText 4 year.toNat ds) : YearText year ds
  | before {ds : List Char} (hyear : year ≤ 0) (hpos : 0 < ds.length) (h : Numeral year.natAbs ds) :
      YearText year ('-' :: ds)
  | after {ds : List Char} (hyear : 0 ≤ year) (hpos : 0 < ds.length) (h : Numeral year.natAbs ds) :
      YearText year ('+' :: ds)

section Reading

variable {max n : Nat} {year : Int} {cs ds rest : List Char}

/-- What is read is the run of digits in front. -/
theorem exists_of_number? (h : number? max cs = some (n, rest)) :
    ∃ ds, cs = ds ++ rest ∧ NumberText max n ds := by
  obtain ⟨ds, rest', rfl, hds, hmax, hrest⟩ := exists_digits max cs
  have hnumeral : Numeral (Nat.ofDigitChars 10 ds 0) ds := ⟨hds, rfl⟩
  by_cases hpos : 0 < ds.length
  · rw [number?_numeral hnumeral hpos hmax hrest] at h
    cases h
    exact ⟨ds, rfl, hpos, hmax, hnumeral⟩
  · rw [number?, hnumeral.scanDigits_append hmax hrest] at h
    dsimp only at h
    rw [if_pos (Nat.eq_zero_of_not_pos hpos)] at h
    cases h

/-- A number ends where no digit follows. -/
theorem number?_eq_some (hrest : ∀ c ∈ rest.head?, digitValue? c = none) :
    number? max cs = some (n, rest) ↔ ∃ ds, cs = ds ++ rest ∧ NumberText max n ds := by
  refine ⟨exists_of_number?, ?_⟩
  rintro ⟨ds, rfl, hds⟩
  exact number?_numeral hds.numeral hds.pos hds.le fun _ => hrest

theorem exists_of_year? (h : year? cs = some (year, rest)) :
    ∃ ds, cs = ds ++ rest ∧ YearText year ds := by
  unfold year? at h
  split at h
  · next cs =>
    obtain ⟨⟨n, rest⟩, hn, h⟩ := Option.map_eq_some_iff.1 h
    cases h
    obtain ⟨ds, rfl, hds⟩ := exists_of_number? hn
    have hvalue : (-(n : Int)).natAbs = n := by omega
    exact ⟨'-' :: ds, rfl, .before (by omega) hds.pos (hvalue.symm ▸ hds.numeral)⟩
  · next cs =>
    obtain ⟨⟨n, rest⟩, hn, h⟩ := Option.map_eq_some_iff.1 h
    cases h
    obtain ⟨ds, rfl, hds⟩ := exists_of_number? hn
    exact ⟨'+' :: ds, rfl, .after (by omega) hds.pos hds.numeral⟩
  · obtain ⟨⟨n, rest⟩, hn, h⟩ := Option.map_eq_some_iff.1 h
    cases h
    obtain ⟨ds, rfl, hds⟩ := exists_of_number? hn
    exact ⟨ds, rfl, .plain (by omega) hds⟩

theorem year?_eq_some (hrest : ∀ c ∈ rest.head?, digitValue? c = none) :
    year? cs = some (year, rest) ↔ ∃ ds, cs = ds ++ rest ∧ YearText year ds := by
  refine ⟨exists_of_year?, ?_⟩
  rintro ⟨ds, rfl, hds⟩
  cases hds with
  | plain hyear h =>
    have hread := (number?_eq_some hrest).2 ⟨ds, rfl, h⟩
    -- The text begins with a digit, so that neither rule for a sign applies.
    obtain ⟨d, ds', rfl, hd⟩ := h.numeral.exists_cons h.pos
    rw [List.cons_append] at hread ⊢
    unfold year?
    split
    · next hcons => cases hcons; cases hd
    · next hcons => cases hcons; cases hd
    · rw [hread, Option.map_some]
      exact congrArg (fun y => some (y, _)) (Int.toNat_of_nonneg hyear)
  | @before ds hyear hpos h | @after ds hyear hpos h =>
    have hread : number? (ds ++ rest).length (ds ++ rest) = some (year.natAbs, rest) :=
      (number?_eq_some hrest).2 ⟨ds, rfl, hpos, by simp, h⟩
    rw [List.cons_append, year?, hread, Option.map_some]
    refine congrArg (fun y => some (y, _)) ?_
    omega

theorem mark?_eq_some {c : Char} : mark? c cs = some rest ↔ cs = c :: rest := by
  cases cs with
  | nil => simp [mark?]
  | cons d cs =>
    rw [mark?]
    split
    · next h => simp [h]
    · next h => simp [h]

end Reading

end Calendar

end IncidentBoard
