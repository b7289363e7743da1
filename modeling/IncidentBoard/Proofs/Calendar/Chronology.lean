import IncidentBoard.Proofs.Calendar.Iso
import IncidentBoard.Proofs.Text.DigitOrder
import Mathlib.Algebra.Order.BigOperators.Group.List
import Mathlib.Algebra.Order.Group.Nat

/-! Moments in the order of time, and their sort keys in the order of texts. Both compare field by
field, but the years of sort keys are compared as they are written. -/
namespace IncidentBoard

open Calendar Text

section Writing

namespace Calendar

/-- Years behind 9999 begin with `+`, years before 0 with `-`, and the others with a digit: also the
order of these characters. -/
def yearRank (year : Int) : Nat := if 9999 < year then 0 else if year < 0 then 1 else 2

/-- The number of digits that a year is written with. -/
def yearWidth (year : Int) : Nat := (padded 4 year.natAbs).length

/-- The order of years as they are written: by their signs, and then digit by digit. -/
def YearBefore (y z : Int) : Prop :=
  yearRank y < yearRank z ∨
    yearRank y = yearRank z ∧ DigitsBefore y.natAbs (yearWidth y) z.natAbs (yearWidth z)

instance (y z : Int) : Decidable (YearBefore y z) := inferInstanceAs (Decidable (_ ∨ _))

variable {y z : Int} {xs ys : List Char}

theorem yearRank_of_four (h : 0 ≤ y ∧ y ≤ 9999) : yearRank y = 2 := by
  rw [yearRank, if_neg (by omega), if_neg (by omega)]

theorem yearWidth_of_four (h : 0 ≤ y ∧ y ≤ 9999) : yearWidth y = 4 :=
  length_padded (by decide) (by omega)

/-- Years of four digits are written in their order. -/
theorem yearBefore_of_four (hy : 0 ≤ y ∧ y ≤ 9999) (hz : 0 ≤ z ∧ z ≤ 9999) :
    YearBefore y z ↔ y < z := by
  rw [YearBefore, yearRank_of_four hy, yearRank_of_four hz, yearWidth_of_four hy,
    yearWidth_of_four hz, digitsBefore_same]
  omega

theorem not_yearBefore_self (y : Int) : ¬YearBefore y y := by simp [YearBefore, digitsBefore_same]

theorem yearRank_le (y : Int) : yearRank y ≤ 2 := by
  unfold yearRank
  split
  · decide
  · split <;> decide

theorem natAbs_eq_iff_of_rank (h : yearRank y = yearRank z) : y.natAbs = z.natAbs ↔ y = z := by
  unfold yearRank at h
  split_ifs at h <;> omega

/-- The sign that years of a rank are written with. -/
def signText : Nat → List Char
  | 0 => ['+']
  | 1 => ['-']
  | _ => []

theorem yearText_eq (y : Int) : yearText y = signText (yearRank y) ++ padded 4 y.natAbs := by
  by_cases hyear : 0 ≤ y ∧ y ≤ 9999
  · have hvalue : y.toNat = y.natAbs := by omega
    rw [yearText, if_pos hyear, yearRank_of_four hyear, hvalue]
    rfl
  · rw [yearText, if_neg hyear, yearRank]
    by_cases hneg : y < 0
    · rw [if_pos hneg, if_neg (by omega), if_pos hneg]
      rfl
    · rw [if_neg hneg, if_pos (by omega)]
      rfl

theorem signText_append_lt {r r' n m : Nat} (h : r < r') (hr' : r' ≤ 2) :
    signText r ++ (padded 4 n ++ xs) < signText r' ++ (padded 4 m ++ ys) := by
  obtain ⟨d, ds, hm, hd⟩ : ∃ d ds, padded 4 m = d :: ds ∧ d.isDigit :=
    numeral_padded.exists_cons (Nat.lt_of_lt_of_le (by decide) le_length_padded)
  have hranks : r = 0 ∧ r' = 1 ∨ r = 0 ∧ r' = 2 ∨ r = 1 ∧ r' = 2 := by omega
  rcases hranks with ⟨rfl, rfl⟩ | ⟨rfl, rfl⟩ | ⟨rfl, rfl⟩
  · exact List.Lex.rel (by decide)
  · rw [hm]
    exact List.Lex.rel (lt_digit (by decide) hd)
  · rw [hm]
    exact List.Lex.rel (lt_digit (by decide) hd)

/-- Years that a dash follows. -/
theorem yearText_dash_lt_iff :
    yearText y ++ '-' :: xs < yearText z ++ '-' :: ys ↔ YearBefore y z ∨ y = z ∧ xs < ys := by
  rw [yearText_eq, yearText_eq, List.append_assoc, List.append_assoc]
  rcases Nat.lt_trichotomy (yearRank y) (yearRank z) with h | h | h
  · exact iff_of_true (signText_append_lt h (yearRank_le z)) (.inl (.inl h))
  · have hrank : ¬yearRank y < yearRank z := Nat.not_lt.2 (Nat.le_of_eq h.symm)
    rw [h, append_lt_append_iff rfl, or_iff_right (List.lt_irrefl _), and_iff_right rfl,
      padded_dash_lt_iff, natAbs_eq_iff_of_rank h, YearBefore, or_iff_right hrank, and_iff_right h]
    rfl
  · refine iff_of_false (List.lt_asymm (signText_append_lt h (yearRank_le y))) ?_
    rintro ((hlt | ⟨heq, -⟩) | ⟨rfl, -⟩) <;> omega

end Calendar

end Writing

section Time

theorem Calendar.daysBeforeMonth_mono (leap : Bool) {m m' : Nat} (h : m ≤ m') :
    daysBeforeMonth leap m ≤ daysBeforeMonth leap m' := by
  rw [daysBeforeMonth_eq, daysBeforeMonth_eq]
  exact List.monotone_sum_take _ (Nat.sub_le_sub_right h 1)

namespace Date

variable {d e : Date}

theorem number_lt_of_year (h : d.year < e.year) : d.number < e.number := by
  have hnext := daysBeforeYear_mono (show d.year + 1 ≤ e.year by omega)
  have hd := d.year_bounds.2
  have he := e.year_bounds.1
  omega

theorem number_lt_of_month (hyear : d.year = e.year) (h : d.month < e.month) :
    d.number < e.number := by
  have hd := d.fields_valid
  have he := e.fields_valid
  have hmonth : daysBeforeMonth (isLeap e.year) (d.month + 1) ≤
      daysBeforeMonth (isLeap e.year) e.month :=
    daysBeforeMonth_mono _ h
  have hnumber := d.number_eq
  have hnumber' := e.number_eq
  rw [hyear] at hd hnumber
  rw [daysBeforeMonth_succ ⟨hd.1, hd.2.1⟩] at hmonth
  omega

/-- Days of one year are ordered by month and day. -/
theorem number_lt_iff_of_year (hyear : d.year = e.year) :
    d.number < e.number ↔ d.month < e.month ∨ d.month = e.month ∧ d.day < e.day := by
  rcases Nat.lt_trichotomy d.month e.month with h | h | h
  · exact iff_of_true (number_lt_of_month hyear h) (.inl h)
  · have hd := d.fields_valid
    have he := e.fields_valid
    have hnumber := d.number_eq
    have hnumber' := e.number_eq
    rw [hyear, h] at hnumber
    omega
  · have hgt := number_lt_of_month hyear.symm h
    omega

end Date

namespace Timestamp

variable {s t : Timestamp}

/-- Whole seconds of one day are ordered as a clock shows them, leap seconds included. -/
theorem lt_iff_clock (hdate : s.date = t.date) (hs : s.fraction = 0) (ht : t.fraction = 0) :
    s < t ↔ s.hour < t.hour ∨ s.hour = t.hour ∧
      (s.minute < t.minute ∨ s.minute = t.minute ∧ s.clockSecond < t.clockSecond) := by
  have hlt : s < t ↔ s.instant < t.instant := Iff.rfl
  have hs' := s.nano_lt
  have ht' := t.nano_lt
  rw [hlt, instant, instant, hdate]
  unfold fraction at hs ht
  unfold hour minute clockSecond
  split at hs' <;> split at ht' <;> omega

theorem lt_of_number (h : s.date.number < t.date.number) : s < t := by
  have hs := s.second_lt
  refine lt_of_seconds ?_
  unfold seconds
  omega

theorem lt_of_year (h : s.date.year < t.date.year) : s < t :=
  lt_of_number (Date.number_lt_of_year h)

theorem clockText_lt_iff (hdate : s.date = t.date) (hs : s.fraction = 0) (ht : t.fraction = 0) :
    s.clockText < t.clockText ↔ s < t := by
  have hhour : s.hour < 100 ∧ t.hour < 100 :=
    ⟨Nat.lt_trans s.hour_lt (by decide), Nat.lt_trans t.hour_lt (by decide)⟩
  have hminute : s.minute < 100 ∧ t.minute < 100 :=
    ⟨Nat.lt_trans s.minute_lt (by decide), Nat.lt_trans t.minute_lt (by decide)⟩
  have hsecond : padded 2 s.clockSecond ++ [] < padded 2 t.clockSecond ++ [] ↔ _ :=
    padded_two_lt_iff s.clockSecond_lt t.clockSecond_lt
  simp only [List.append_nil, List.lt_irrefl, and_false, or_false] at hsecond
  rw [lt_iff_clock hdate hs ht, clockText, clockText, minuteText, minuteText]
  simp only [List.append_assoc, List.cons_append, padded_two_lt_iff hhour.1 hhour.2,
    padded_two_lt_iff hminute.1 hminute.2, List.cons_lt_cons_self, hsecond]

/-- A sort key behind its year. -/
def withinYear (t : Timestamp) : List Char :=
  padded 2 t.date.month ++ '-' :: (padded 2 t.date.day ++ 'T' :: t.clockText)

/-- Within a year, texts are ordered as time is. -/
theorem withinYear_lt_iff (hyear : s.date.year = t.date.year) (hs : s.fraction = 0)
    (ht : t.fraction = 0) :
    s.withinYear < t.withinYear ↔ s < t := by
  have fields_lt (d : Date) : d.month < 100 ∧ d.day < 100 := by
    have hd := d.fields_valid
    have hlength := monthLength_bounds d.year ⟨hd.1, hd.2.1⟩
    omega
  rw [withinYear, withinYear, padded_two_lt_iff (fields_lt s.date).1 (fields_lt t.date).1,
    List.cons_lt_cons_self, padded_two_lt_iff (fields_lt s.date).2 (fields_lt t.date).2,
    List.cons_lt_cons_self]
  have hnumber := Date.number_lt_iff_of_year hyear
  have hnumber' := Date.number_lt_iff_of_year hyear.symm
  rcases Int.lt_trichotomy s.date.number t.date.number with h | h | h
  · refine iff_of_true ?_ (lt_of_number h)
    rcases hnumber.1 h with hmonth | ⟨hmonth, hday⟩
    · exact .inl hmonth
    · exact .inr ⟨hmonth, .inl hday⟩
  · have hdate : s.date = t.date := Date.ext h
    rw [clockText_lt_iff hdate hs ht, hdate]
    simp
  · refine iff_of_false ?_ (not_lt.2 (le_of_lt (lt_of_number h)))
    have hlater := hnumber'.1 h
    omega

theorem sortKey_lt_iff (hs : s.fraction = 0) (ht : t.fraction = 0) : s.sortKey < t.sortKey ↔
    YearBefore s.date.year t.date.year ∨ s.date.year = t.date.year ∧ s < t := by
  have hkey (t : Timestamp) : t.sortKey.toList = yearText t.date.year ++ '-' :: t.withinYear := by
    simp [sortKey, Date.text, Date.monthText, withinYear]
  have hlt : s.sortKey < t.sortKey ↔ s.sortKey.toList < t.sortKey.toList := Iff.rfl
  rw [hlt, hkey, hkey, yearText_dash_lt_iff]
  refine or_congr_right (and_congr_right fun hyear => ?_)
  exact withinYear_lt_iff hyear hs ht

theorem lt_iff_year : s < t ↔ s.date.year < t.date.year ∨ s.date.year = t.date.year ∧ s < t := by
  rcases Int.lt_trichotomy s.date.year t.date.year with h | h | h
  · exact iff_of_true (lt_of_year h) (.inl h)
  · rw [or_iff_right (Int.not_lt.2 (Int.le_of_eq h.symm)), and_iff_right h]
  · refine iff_of_false (not_lt.2 (le_of_lt (lt_of_year h))) ?_
    omega

end Timestamp

end Time

end IncidentBoard
