import IncidentBoard.Calendar.Timestamp
import Mathlib.Algebra.GroupWithZero.Nat

/-! A day and its year, month and day of the month determine each other. -/
namespace IncidentBoard

namespace Calendar

theorem daysBeforeYear_eq (y : Int) :
    daysBeforeYear y = 365 * (y - 1) + (y - 1) / 4 - (y - 1) / 100 + (y - 1) / 400 := rfl

theorem daysBeforeYear_succ (y : Int) :
    daysBeforeYear (y + 1) = daysBeforeYear y + if isLeap y then 366 else 365 := by
  rw [daysBeforeYear_eq, daysBeforeYear_eq, isLeap]
  by_cases h4 : y % 4 = 0 <;> by_cases h100 : y % 100 = 0 <;> by_cases h400 : y % 400 = 0 <;>
    simp [h4, h100, h400] <;> omega

theorem daysBeforeYear_mono {y z : Int} (h : y ≤ z) : daysBeforeYear y ≤ daysBeforeYear z := by
  rw [daysBeforeYear_eq, daysBeforeYear_eq]
  omega

section Months

variable {lengths : List Nat}

/-- Every day of a year lies in one of its months. -/
theorem exists_month {n : Nat} (h : n < lengths.sum) :
    ∃ i length k, lengths[i]? = some length ∧ k < length ∧ n = (lengths.take i).sum + k := by
  induction lengths generalizing n with
  | nil => simp at h
  | cons first rest ih =>
    rw [List.sum_cons] at h
    by_cases hn : n < first
    · exact ⟨0, first, n, rfl, hn, by simp⟩
    · obtain ⟨i, length, k, hi, hk, heq⟩ := ih (n := n - first) (by omega)
      exact ⟨i + 1, length, k, hi, hk, by simp; omega⟩

theorem monthAndDay_eq {i length k : Nat} (month : Nat) (hi : lengths[i]? = some length)
    (hk : k < length) :
    monthAndDay month lengths ((lengths.take i).sum + k) = (month + i, k + 1) := by
  induction lengths generalizing month i with
  | nil => simp at hi
  | cons first rest ih =>
    cases i with
    | zero =>
      cases hi
      rw [monthAndDay, List.take_zero, List.sum_nil, Nat.zero_add, if_pos hk]
      rfl
    | succ i =>
      have hrest := ih (month + 1) (i := i) hi
      rw [monthAndDay, List.take_succ_cons, List.sum_cons, if_neg (by omega)]
      rw [show first + (rest.take i).sum + k - first = (rest.take i).sum + k by omega, hrest]
      rw [Nat.add_assoc, Nat.add_comm 1]

end Months

theorem daysBeforeMonth_eq (leap : Bool) (month : Nat) :
    daysBeforeMonth leap month = ((monthLengths leap).take (month - 1)).sum := by
  rw [daysBeforeMonth, List.sum_eq_foldl]

theorem length_monthLengths (leap : Bool) : (monthLengths leap).length = 12 := rfl

theorem sum_monthLengths (leap : Bool) : (monthLengths leap).sum = if leap then 366 else 365 := by
  cases leap <;> rfl

theorem getElem?_monthLengths (year : Int) {month : Nat} (hm : 1 ≤ month ∧ month ≤ 12) :
    (monthLengths (isLeap year))[month - 1]? = some (monthLength year month) := by
  have hlt : month - 1 < (monthLengths (isLeap year)).length := by
    rw [length_monthLengths]
    omega
  rw [monthLength, List.getD_eq_getElem?_getD, List.getElem?_eq_getElem hlt, Option.getD_some]

theorem monthLength_bounds (year : Int) {month : Nat} (hm : 1 ≤ month ∧ month ≤ 12) :
    0 < monthLength year month ∧ monthLength year month ≤ 31 := by
  have hbounds (leap : Bool) : ∀ length ∈ monthLengths leap, 0 < length ∧ length ≤ 31 := by
    cases leap <;> decide
  exact hbounds _ _ (List.mem_of_getElem? (getElem?_monthLengths year hm))

/-- A day of a month is a day of its year. -/
theorem daysBeforeMonth_add_lt {year : Int} {month day : Nat} (hm : 1 ≤ month ∧ month ≤ 12)
    (hd : day < monthLength year month) :
    daysBeforeMonth (isLeap year) month + day < (monthLengths (isLeap year)).sum := by
  have hi := getElem?_monthLengths year hm
  have hsum : ((monthLengths (isLeap year)).take (month - 1)).sum + monthLength year month ≤
      (monthLengths (isLeap year)).sum := by
    obtain ⟨hlt, hget⟩ := List.getElem?_eq_some_iff.1 hi
    conv => rhs; rw [← List.take_append_drop (month - 1) (monthLengths (isLeap year)),
      List.sum_append, List.drop_eq_getElem_cons hlt, List.sum_cons, hget]
    omega
  rw [daysBeforeMonth_eq]
  omega

end Calendar

open Calendar

namespace Date

variable {d : Date}

theorem ext {d e : Date} (h : d.number = e.number) : d = e := by
  cases d
  cases e
  cases h
  rfl

theorem ofNumber?_eq_some {n : Int} : ofNumber? n = some d ↔ d.number = n := by
  unfold ofNumber?
  split
  · constructor
    · rintro h
      cases h
      rfl
    · rintro rfl
      rfl
  · next h =>
    refine ⟨nofun, ?_⟩
    rintro rfl
    exact absurd ⟨d.first_le, d.le_last⟩ h

/-- The quotient by 146097 misses the year by one at most. -/
theorem year_bounds (d : Date) :
    daysBeforeYear d.year ≤ d.number ∧ d.number < daysBeforeYear (d.year + 1) := by
  have hbefore : daysBeforeYear (400 * d.number / 146097 + 1 - 1) ≤ d.number := by
    rw [daysBeforeYear_eq]
    omega
  have hafter : d.number < daysBeforeYear (400 * d.number / 146097 + 1 + 1 + 1) := by
    rw [daysBeforeYear_eq]
    omega
  unfold year
  dsimp only
  split
  · next h => exact ⟨hbefore, by rwa [Int.sub_add_cancel]⟩
  · next h =>
    split
    · next h' => exact ⟨h', hafter⟩
    · next h' => exact ⟨Int.not_lt.1 h, Int.not_le.1 h'⟩

theorem year_eq_iff {y : Int} :
    d.year = y ↔ daysBeforeYear y ≤ d.number ∧ d.number < daysBeforeYear (y + 1) := by
  have hb := d.year_bounds
  constructor
  · rintro rfl
    exact hb
  · rintro ⟨hle, hlt⟩
    rcases Int.lt_trichotomy d.year y with h | h | h
    · have := daysBeforeYear_mono (y := d.year + 1) (z := y) (by omega)
      omega
    · exact h
    · have := daysBeforeYear_mono (y := y + 1) (z := d.year) (by omega)
      omega

theorem dayOfYear_eq (d : Date) : d.number = daysBeforeYear d.year + d.dayOfYear := by
  have := d.year_bounds.1
  unfold dayOfYear
  omega

theorem dayOfYear_lt (d : Date) : d.dayOfYear < (monthLengths (isLeap d.year)).sum := by
  have hlast := d.year_bounds.2
  have hday := d.dayOfYear_eq
  rw [daysBeforeYear_succ] at hlast
  rw [sum_monthLengths]
  cases hleap : isLeap d.year <;> simp only [hleap, reduceIte, Bool.false_eq_true] at hlast ⊢ <;>
    omega

/-- A day is the one that its fields name. -/
theorem ofYMD?_fields (d : Date) : ofYMD? d.year d.month d.day = some d := by
  obtain ⟨i, length, k, hi, hk, hday⟩ := exists_month d.dayOfYear_lt
  have hfields : d.monthAndDay = (1 + i, k + 1) := by
    rw [monthAndDay, hday, monthAndDay_eq 1 hi hk]
  have hmonth : d.month = 1 + i := congrArg Prod.fst hfields
  have hmday : d.day = k + 1 := congrArg Prod.snd hfields
  have hi12 : i < 12 := (List.getElem?_eq_some_iff.1 hi).1
  have hlength : monthLength d.year d.month = length := by
    rw [hmonth, monthLength, List.getD_eq_getElem?_getD, show 1 + i - 1 = i by omega, hi]
    rfl
  rw [ofYMD?, if_pos (by omega), ofNumber?_eq_some, daysBeforeMonth_eq, hmonth, hmday,
    dayOfYear_eq, hday, show 1 + i - 1 = i by omega]
  omega

/-- Fields that name a day are its fields. -/
theorem fields_of_ofYMD? {y : Int} {m k : Nat} (h : ofYMD? y m k = some d) :
    d.year = y ∧ d.month = m ∧ d.day = k := by
  unfold ofYMD? at h
  split at h
  · next hvalid =>
    obtain ⟨hm, hm12, hk, hlen⟩ := hvalid
    have hnumber := ofNumber?_eq_some.1 h
    have hlt : daysBeforeMonth (isLeap y) m + (k - 1) < (monthLengths (isLeap y)).sum :=
      daysBeforeMonth_add_lt ⟨hm, hm12⟩ (by omega)
    have hyear : d.year = y := by
      rw [year_eq_iff, daysBeforeYear_succ]
      rw [sum_monthLengths] at hlt
      cases hleap : isLeap y <;> simp only [hleap, reduceIte, Bool.false_eq_true]
        at hlt hnumber ⊢ <;> omega
    have hday : d.dayOfYear = ((monthLengths (isLeap d.year)).take (m - 1)).sum + (k - 1) := by
      rw [← daysBeforeMonth_eq, dayOfYear, hnumber, hyear]
      omega
    have hfields : d.monthAndDay = (1 + (m - 1), k - 1 + 1) := by
      rw [monthAndDay, hday]
      refine monthAndDay_eq 1 (getElem?_monthLengths d.year ⟨hm, hm12⟩) ?_
      rw [hyear]
      omega
    rw [month, day, hfields]
    exact ⟨hyear, by dsimp only; omega, by dsimp only; omega⟩
  · cases h

theorem ofYMD?_eq_some {y : Int} {m k : Nat} :
    ofYMD? y m k = some d ↔ d.year = y ∧ d.month = m ∧ d.day = k := by
  refine ⟨fields_of_ofYMD?, ?_⟩
  rintro ⟨rfl, rfl, rfl⟩
  exact d.ofYMD?_fields

/-- Months and days of a date are in range. -/
theorem fields_valid (d : Date) :
    1 ≤ d.month ∧ d.month ≤ 12 ∧ 1 ≤ d.day ∧ d.day ≤ monthLength d.year d.month := by
  have h := d.ofYMD?_fields
  unfold ofYMD? at h
  split at h
  · next hvalid => exact hvalid
  · cases h

theorem number_eq (d : Date) :
    d.number = daysBeforeYear d.year + daysBeforeMonth (isLeap d.year) d.month + (d.day - 1) := by
  have h := d.ofYMD?_fields
  rw [ofYMD?, if_pos d.fields_valid] at h
  exact ofNumber?_eq_some.1 h

end Date

end IncidentBoard
