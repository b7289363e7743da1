import IncidentBoard.Bucket
import IncidentBoard.Proofs.Calendar.Fields

/-! Buckets are intervals that begin with their floor and end where the next one begins. -/
namespace IncidentBoard

open Calendar

namespace Calendar

section Months

variable {year : Int} {month : Nat}

theorem daysBeforeMonth_one (leap : Bool) : daysBeforeMonth leap 1 = 0 := rfl

theorem daysBeforeMonth_succ (hm : 1 ≤ month ∧ month ≤ 12) :
    daysBeforeMonth (isLeap year) (month + 1) = daysBeforeMonth (isLeap year) month +
      monthLength year month := by
  obtain ⟨hlt, hget⟩ := List.getElem?_eq_some_iff.1 (getElem?_monthLengths year hm)
  have hsucc : month + 1 - 1 = month - 1 + 1 := by omega
  rw [daysBeforeMonth_eq, daysBeforeMonth_eq, hsucc, List.take_succ_eq_append_getElem hlt,
    List.sum_append, hget, List.sum_singleton]

/-- A year ends with its December. -/
theorem daysBeforeYear_succ_eq_december (year : Int) :
    daysBeforeYear (year + 1) =
      daysBeforeYear year + (daysBeforeMonth (isLeap year) 12 + monthLength year 12 : Nat) := by
  rw [daysBeforeYear_succ, monthLength]
  cases isLeap year <;> rfl

end Months

end Calendar

namespace Timestamp

variable {s t : Timestamp}

/-- Whole seconds since midnight of 1 January of year 1. -/
def seconds (t : Timestamp) : Int := t.date.number * 86400 + t.second

theorem instant_eq (t : Timestamp) : t.instant = t.seconds * 2000000000 + t.nano := rfl

theorem nano_lt_max (t : Timestamp) : t.nano < 2000000000 := by
  have := t.nano_lt
  split at this <;> omega

theorem seconds_le (h : s ≤ t) : s.seconds ≤ t.seconds := by
  have h : s.instant ≤ t.instant := h
  have := s.nano_lt_max
  have := t.nano_lt_max
  rw [instant_eq, instant_eq] at h
  omega

theorem le_of_seconds (h : s.seconds ≤ t.seconds) (hs : s.nano = 0) : s ≤ t := by
  have : s.instant ≤ t.instant := by
    rw [instant_eq, instant_eq]
    omega
  exact this

theorem seconds_lt (h : s < t) (ht : t.nano = 0) : s.seconds < t.seconds := by
  have h : s.instant < t.instant := h
  rw [instant_eq, instant_eq] at h
  omega

theorem lt_of_seconds (h : s.seconds < t.seconds) : s < t := by
  have hs := s.nano_lt_max
  have : s.instant < t.instant := by
    rw [instant_eq, instant_eq]
    omega
  exact this

theorem le_refl (t : Timestamp) : t ≤ t := Int.le_refl _

theorem le_trans {r s t : Timestamp} (h : r ≤ s) (h' : s ≤ t) : r ≤ t := Int.le_trans h h'

theorem le_of_lt (h : s < t) : s ≤ t := Int.le_of_lt h

theorem lt_irrefl (t : Timestamp) : ¬ t < t := Int.lt_irrefl _

theorem lt_of_lt_of_le {r s t : Timestamp} (h : r < s) (h' : s ≤ t) : r < t :=
  Int.lt_of_lt_of_le h h'

theorem lt_of_le_of_lt {r s t : Timestamp} (h : r ≤ s) (h' : s < t) : r < t :=
  Int.lt_of_le_of_lt h h'

theorem not_lt : ¬ s < t ↔ t ≤ s := Int.not_lt

theorem not_le : ¬ s ≤ t ↔ t < s := Int.not_le

theorem number_eq (t : Timestamp) : t.date.number = t.seconds / 86400 := by
  have := t.second_lt
  unfold seconds
  omega

theorem second_eq (t : Timestamp) : (t.second : Int) = t.seconds % 86400 := by
  have := t.second_lt
  unfold seconds
  omega

theorem ext_seconds (h : s.seconds = t.seconds) (hn : s.nano = t.nano) : s = t := by
  have hdate : s.date = t.date := Date.ext (by rw [number_eq, number_eq, h])
  have hsecond : s.second = t.second := by
    have hs := s.second_eq
    have ht := t.second_eq
    omega
  cases s
  cases t
  cases hdate
  cases hsecond
  cases hn
  rfl

theorem number_le (h : s ≤ t) : s.date.number ≤ t.date.number := by
  have := seconds_le h
  rw [number_eq, number_eq]
  omega

theorem ofParts?_eq_some {d : Date} {second nano : Nat} :
    ofParts? d second nano = some t ↔ t.date = d ∧ t.second = second ∧ t.nano = nano := by
  constructor
  · intro h
    by_cases hvalid : second < 86400 ∧ nano < if second % 60 = 59 then 2000000000 else 1000000000
    · rw [ofParts?, dif_pos hvalid] at h
      cases h
      exact ⟨rfl, rfl, rfl⟩
    · rw [ofParts?, dif_neg hvalid] at h
      cases h
  · rintro ⟨rfl, rfl, rfl⟩
    exact dif_pos ⟨t.second_lt, t.nano_lt⟩

/-- Every second of a day of the calendar is a moment. -/
theorem exists_seconds {n : Int} (hfirst : firstDay * 86400 ≤ n)
    (hlast : n < (lastDay + 1) * 86400) :
    ∃ s : Timestamp, s.seconds = n ∧ s.nano = 0 := by
  refine ⟨⟨⟨n / 86400, by omega, by omega⟩, (n % 86400).toNat, 0, by omega, by split <;> decide⟩,
    ?_, rfl⟩
  unfold seconds
  dsimp only
  omega

/-- Moving by whole seconds. -/
theorem addSeconds?_eq_some {n : Int} :
    t.addSeconds? n = some s ↔ s.seconds = t.seconds + n ∧ s.nano = t.nano := by
  have hs := s.second_lt
  unfold addSeconds? Date.addDays?
  simp only [Option.bind_eq_bind, Option.bind_eq_some_iff, Date.ofNumber?_eq_some, ofParts?_eq_some]
  constructor
  · rintro ⟨d, hd, rfl, hsecond, hnano⟩
    unfold seconds
    omega
  · rintro ⟨hseconds, hnano⟩
    unfold seconds at hseconds
    exact ⟨s.date, by omega, rfl, by omega, hnano⟩

end Timestamp

namespace Date

variable {d : Date}

@[simp] theorem seconds_midnight (d : Date) : d.midnight.seconds = d.number * 86400 :=
  Int.add_zero _

@[simp] theorem nano_midnight (d : Date) : d.midnight.nano = 0 := rfl

@[simp] theorem date_midnight (d : Date) : d.midnight.date = d := rfl

theorem exists_number_or {n : Int} (h : firstDay ≤ n) :
    (∃ d : Date, d.number = n) ∨ ∀ d : Date, d.number < n := by
  by_cases hn : n ≤ lastDay
  · exact .inl ⟨⟨n, h, hn⟩, rfl⟩
  · exact .inr fun d => Int.lt_of_le_of_lt d.le_last (Int.not_le.1 hn)

theorem midnight_le {t : Timestamp} : d.midnight ≤ t ↔ d.number ≤ t.date.number := by
  constructor
  · exact fun h => Timestamp.number_le h
  · intro h
    refine Timestamp.le_of_seconds ?_ rfl
    rw [seconds_midnight, Timestamp.seconds]
    omega

theorem lt_midnight {t : Timestamp} : t < d.midnight ↔ t.date.number < d.number := by
  rw [← Int.not_le, ← midnight_le, ← Timestamp.not_lt, Classical.not_not]

/-- Years of four digits are far from the ends of the calendar. -/
theorem number_bounds (hyear : 0 ≤ d.year ∧ d.year ≤ 9999) :
    -366 ≤ d.number ∧ d.number < 3652059 := by
  have hbounds := d.year_bounds
  have hfirst := daysBeforeYear_mono hyear.1
  have hlast := daysBeforeYear_mono (show d.year + 1 ≤ 10000 by omega)
  have h0 : daysBeforeYear 0 = -366 := rfl
  have h10000 : daysBeforeYear 10000 = 3652059 := rfl
  omega

end Date

namespace Bucket

variable {b : Bucket} {s t f : Timestamp}

/-- The seconds that each bucket lasts; months and years differ. -/
def length? : Bucket → Option Nat
  | .minute => some 60
  | .fiveMinutes => some 300
  | .fifteenMinutes => some 900
  | .hour => some 3600
  | .day => some 86400
  | .week => some 604800
  | .month | .year => none

section Seconds

theorem floorSeconds_eq {step : Nat} (hstep : step ∣ 86400) :
    f = t.floorSeconds step ↔ f.seconds = t.seconds - t.seconds % step ∧ f.nano = 0 := by
  have hle := Nat.mod_le t.second step
  have hfloor : (t.floorSeconds step).seconds = t.seconds - t.seconds % step := by
    obtain ⟨k, hk⟩ := hstep
    have hday : (t.date.number * 86400 + t.second) % step = (t.second % step : Nat) := by
      have h86400 : (86400 : Int) = step * k := by
        rw [← Int.natCast_mul, ← hk]
        rfl
      rw [h86400, Int.mul_left_comm, Int.mul_add_emod_self_left, Int.natCast_emod]
    rw [Timestamp.seconds, Timestamp.seconds, hday]
    simp only [Timestamp.floorSeconds]
    omega
  constructor
  · rintro rfl
    exact ⟨hfloor, rfl⟩
  · rintro ⟨hf, hn⟩
    exact Timestamp.ext_seconds (hf.trans hfloor.symm) hn

/-- Buckets of one length begin at its multiples; the first week began on a Monday. -/
theorem floor?_of_length {n : Nat} (hb : b.length? = some n) :
    b.floor? t = some f ↔ f.seconds = t.seconds - t.seconds % n ∧ f.nano = 0 := by
  have hsecond := t.second_lt
  cases b <;> cases hb
  case day =>
    have hday : t.seconds % (86400 : Nat) = t.second := t.second_eq.symm
    rw [floor?, Option.some.injEq, hday]
    constructor
    · rintro rfl
      rw [Date.seconds_midnight, Timestamp.seconds]
      exact ⟨by omega, rfl⟩
    · rintro ⟨hf, hn⟩
      refine Timestamp.ext_seconds ?_ hn.symm
      rw [hf, Date.seconds_midnight, Timestamp.seconds]
      omega
  case week =>
    have hweek : t.seconds - t.seconds % (604800 : Nat) =
        (t.date.number - t.date.number % 7) * 86400 := by
      unfold Timestamp.seconds
      omega
    rw [floor?, Option.map_eq_some_iff, hweek]
    simp only [Date.addDays?, Date.ofNumber?_eq_some, Date.weekday]
    constructor
    · rintro ⟨d, hd, rfl⟩
      rw [Date.seconds_midnight, hd]
      exact ⟨by omega, rfl⟩
    · rintro ⟨hf, hn⟩
      refine ⟨f.date, by rw [f.number_eq]; omega, Timestamp.ext_seconds ?_ hn.symm⟩
      rw [Date.seconds_midnight, f.number_eq]
      omega
  all_goals
    rw [floor?, Option.some.injEq, eq_comm]
    exact floorSeconds_eq (by decide)

theorem advance?_of_length {n : Nat} (hb : b.length? = some n) (hf : b.floor? t = some f) :
    b.advance? t = some s ↔ s.seconds = f.seconds + n ∧ s.nano = 0 := by
  have hn := ((floor?_of_length hb).1 hf).2
  rw [advance?, hf, ← hn]
  cases b <;> cases hb <;> exact Timestamp.addSeconds?_eq_some

end Seconds

section Months

theorem firstOfMonth?_eq_some {year : Int} {month : Nat} (hm : 1 ≤ month ∧ month ≤ 12) :
    firstOfMonth? year month = some f ↔
      ∃ d : Date, d.number = daysBeforeYear year + daysBeforeMonth (isLeap year) month ∧
        d.midnight = f := by
  have hvalid : 1 ≤ month ∧ month ≤ 12 ∧ 1 ≤ 1 ∧ 1 ≤ monthLength year month :=
    ⟨hm.1, hm.2, by decide, (monthLength_bounds year hm).1⟩
  rw [firstOfMonth?, Date.ofYMD?, if_pos hvalid, Option.map_eq_some_iff]
  simp [Date.ofNumber?_eq_some]

/-- The days from the first of a month on for its length are in the month. -/
theorem floor?_month {year : Int} {month : Nat} (hm : 1 ≤ month ∧ month ≤ 12)
    (hf : firstOfMonth? year month = some f) (hle : f ≤ s)
    (hlt : s.date.number < daysBeforeYear year + daysBeforeMonth (isLeap year) month +
      monthLength year month) :
    Bucket.month.floor? s = some f := by
  obtain ⟨d, hd, rfl⟩ := (firstOfMonth?_eq_some hm).1 hf
  have hds := Date.midnight_le.1 hle
  have hday : Date.ofYMD? year month ((s.date.number - d.number).toNat + 1) = some s.date := by
    rw [Date.ofYMD?, if_pos (by omega), Date.ofNumber?_eq_some]
    omega
  obtain ⟨hyear, hmonth, -⟩ := Date.fields_of_ofYMD? hday
  rw [floor?, hyear, hmonth]
  exact hf

theorem floor?_year {year : Int} (hf : firstOfMonth? year 1 = some f) (hle : f ≤ s)
    (hlt : s.date.number < daysBeforeYear (year + 1)) : Bucket.year.floor? s = some f := by
  obtain ⟨d, hd, rfl⟩ := (firstOfMonth?_eq_some (by decide)).1 hf
  have hds := Date.midnight_le.1 hle
  rw [daysBeforeMonth_one] at hd
  have hyear : s.date.year = year := Date.year_eq_iff.2 ⟨by omega, hlt⟩
  rw [floor?, hyear]
  exact hf

end Months

/-- Buckets of such years begin inside the calendar. -/
theorem exists_floor? (hyear : 0 ≤ t.date.year ∧ t.date.year ≤ 9999) (b : Bucket) :
    ∃ f, b.floor? t = some f := by
  have hnumber := Date.number_bounds hyear
  have ht := t.number_eq
  have hfirst : firstDay = -95746130 := rfl
  have hlast : lastDay = 95745398 := rfl
  cases hb : b.length? with
  | some n =>
    have hn : 0 < n ∧ n ≤ 604800 := by cases b <;> cases hb <;> decide
    have hmod := Int.emod_nonneg t.seconds (show (n : Int) ≠ 0 by omega)
    have hlt := Int.emod_lt_of_pos t.seconds (show 0 < (n : Int) by omega)
    obtain ⟨f, hf, hnano⟩ :=
      Timestamp.exists_seconds (n := t.seconds - t.seconds % n) (by omega) (by omega)
    exact ⟨f, (floor?_of_length hb).2 ⟨hf, hnano⟩⟩
  | none =>
    have hzero : daysBeforeYear 0 = -366 := rfl
    have hle := daysBeforeYear_mono hyear.1
    have hvalid := t.date.fields_valid
    have hday := t.date.number_eq
    cases b with
    | month =>
      exact ⟨_, (firstOfMonth?_eq_some ⟨hvalid.1, hvalid.2.1⟩).2
        ⟨⟨_, by omega, by omega⟩, rfl, rfl⟩⟩
    | year =>
      have hjanuary := daysBeforeMonth_one (isLeap t.date.year)
      exact ⟨_, (firstOfMonth?_eq_some (by decide)).2 ⟨⟨_, by omega, by omega⟩, rfl, rfl⟩⟩
    | _ => cases hb

theorem floor?_le (h : b.floor? t = some f) : f ≤ t := by
  cases hb : b.length? with
  | some n =>
    obtain ⟨hf, hn⟩ := (floor?_of_length hb).1 h
    refine Timestamp.le_of_seconds ?_ hn
    have hpos : 0 < n := by cases b <;> cases hb <;> decide
    have := Int.emod_nonneg t.seconds (b := n) (by omega)
    omega
  | none =>
    have hnumber := t.date.number_eq
    have hvalid := t.date.fields_valid
    cases b with
    | month =>
      obtain ⟨d, hd, rfl⟩ := (firstOfMonth?_eq_some ⟨hvalid.1, hvalid.2.1⟩).1 h
      exact Date.midnight_le.2 (by omega)
    | year =>
      obtain ⟨d, hd, rfl⟩ := (firstOfMonth?_eq_some (by decide)).1 h
      rw [daysBeforeMonth_one] at hd
      exact Date.midnight_le.2 (by omega)
    | _ => cases hb

/-- From its floor up to any moment of it a bucket has no gap. -/
theorem floor?_between (h : b.floor? t = some f) (hfs : f ≤ s) (hst : s ≤ t) :
    b.floor? s = some f := by
  cases hb : b.length? with
  | some n =>
    obtain ⟨hf, hn⟩ := (floor?_of_length hb).1 h
    have hle := Timestamp.seconds_le hfs
    have hle' := Timestamp.seconds_le hst
    refine (floor?_of_length hb).2 ⟨?_, hn⟩
    cases b <;> cases hb <;> omega
  | none =>
    have hst := Timestamp.number_le hst
    have hnumber := t.date.number_eq
    have hvalid := t.date.fields_valid
    cases b with
    | month => exact floor?_month ⟨hvalid.1, hvalid.2.1⟩ h hfs (by omega)
    | year =>
      have := t.date.year_bounds
      exact floor?_year h hfs (by omega)
    | _ => cases hb

/-- A floor is its own floor. -/
theorem floor?_floor (h : b.floor? t = some f) : b.floor? f = some f :=
  floor?_between h (Int.le_refl _) (floor?_le h)

/-- The first of a month begins it. -/
theorem floor?_month_midnight {year : Int} {month : Nat} (hm : 1 ≤ month ∧ month ≤ 12) {d : Date}
    (hd : d.number = daysBeforeYear year + daysBeforeMonth (isLeap year) month) :
    firstOfMonth? year month = some d.midnight ∧
      Bucket.month.floor? d.midnight = some d.midnight := by
  have hfirst := (firstOfMonth?_eq_some hm).2 ⟨d, hd, rfl⟩
  have hpos := (monthLength_bounds year hm).1
  refine ⟨hfirst, floor?_month hm hfirst (Int.le_refl _) ?_⟩
  rw [Date.date_midnight, hd]
  omega

/-- The first of a month, or the last moment of a calendar that ends before it. -/
theorem firstOfMonth?_cases (year : Int) {month : Nat} (hm : 1 ≤ month ∧ month ≤ 12)
    (hfirst : firstDay ≤ daysBeforeYear year + daysBeforeMonth (isLeap year) month) :
    (∃ d : Date, d.number = daysBeforeYear year + daysBeforeMonth (isLeap year) month ∧
      (firstOfMonth? year month).getD Timestamp.last = d.midnight ∧
      Bucket.month.floor? d.midnight = some d.midnight) ∨
    (firstOfMonth? year month).getD Timestamp.last = Timestamp.last ∧
      ∀ d : Date, d.number < daysBeforeYear year + daysBeforeMonth (isLeap year) month := by
  rcases Date.exists_number_or hfirst with ⟨d, hd⟩ | hlast
  · obtain ⟨hnext, hfloor⟩ := floor?_month_midnight hm hd
    exact .inl ⟨d, hd, by rw [hnext, Option.getD_some], hfloor⟩
  · have hnone : firstOfMonth? year month = none := by
      refine Option.eq_none_iff_forall_ne_some.2 fun f hf => ?_
      obtain ⟨d, hd, -⟩ := (firstOfMonth?_eq_some hm).1 hf
      exact Int.ne_of_lt (hlast d) hd
    exact .inr ⟨by rw [hnone, Option.getD_none], hlast⟩

/-- The next month begins when this one has lasted its length, if the calendar has a day left. -/
theorem nextMonth_cases (t : Timestamp) :
    (∃ d : Date, d.number = daysBeforeYear t.date.year +
        daysBeforeMonth (isLeap t.date.year) t.date.month + monthLength t.date.year t.date.month ∧
      nextMonth t = d.midnight ∧ Bucket.month.floor? d.midnight = some d.midnight) ∨
    nextMonth t = Timestamp.last ∧
      ∀ d : Date, d.number < daysBeforeYear t.date.year +
        daysBeforeMonth (isLeap t.date.year) t.date.month +
        monthLength t.date.year t.date.month := by
  have hnumber := t.date.number_eq
  have hvalid := t.date.fields_valid
  have hm : 1 ≤ t.date.month ∧ t.date.month ≤ 12 := ⟨hvalid.1, hvalid.2.1⟩
  have hfirst := t.date.first_le
  by_cases h12 : t.date.month < 12
  · have hsucc : daysBeforeMonth (isLeap t.date.year) (t.date.month + 1) =
        daysBeforeMonth (isLeap t.date.year) t.date.month + monthLength t.date.year t.date.month :=
      daysBeforeMonth_succ hm
    rw [nextMonth, if_pos h12, Int.add_assoc, ← Int.natCast_add, ← hsucc]
    exact firstOfMonth?_cases _ (by omega) (by omega)
  · have hmonth : t.date.month = 12 := by omega
    have hjanuary : daysBeforeYear (t.date.year + 1) =
        daysBeforeYear (t.date.year + 1) + daysBeforeMonth (isLeap (t.date.year + 1)) 1 := by
      rw [daysBeforeMonth_one, Int.natCast_zero, Int.add_zero]
    have hdecember := daysBeforeYear_succ_eq_december t.date.year
    rw [nextMonth, if_neg h12, hmonth, Int.add_assoc, ← Int.natCast_add, ← hdecember, hjanuary]
    exact firstOfMonth?_cases _ (by decide) (by rw [hmonth] at hvalid hnumber; omega)

theorem nextYear_cases (t : Timestamp) :
    (∃ d : Date, d.number = daysBeforeYear (t.date.year + 1) ∧ nextYear t = d.midnight ∧
      Bucket.year.floor? d.midnight = some d.midnight) ∨
    nextYear t = Timestamp.last ∧ ∀ d : Date, d.number < daysBeforeYear (t.date.year + 1) := by
  have hbounds := t.date.year_bounds
  have hfirst := t.date.first_le
  have hjanuary := daysBeforeMonth_one (isLeap (t.date.year + 1))
  have hafter := daysBeforeYear_succ (t.date.year + 1)
  rcases firstOfMonth?_cases (t.date.year + 1) (show 1 ≤ 1 ∧ 1 ≤ 12 by decide) (by omega) with
    ⟨d, hd, hnext, -⟩ | ⟨hnext, hlast⟩
  · rw [hjanuary, Int.natCast_zero, Int.add_zero] at hd
    have hmidnight : firstOfMonth? (t.date.year + 1) 1 = some d.midnight :=
      (firstOfMonth?_eq_some (by decide)).2 ⟨d, by rw [hjanuary]; omega, rfl⟩
    refine .inl ⟨d, hd, hnext, floor?_year hmidnight (Timestamp.le_refl _) ?_⟩
    rw [Date.date_midnight, hd]
    split at hafter <;> omega
  · rw [hjanuary, Int.natCast_zero, Int.add_zero] at hlast
    exact .inr ⟨hnext, hlast⟩

/-- After a bucket comes the start of another one, with nothing between them, or the end of the
calendar. -/
theorem advance?_next {c n : Timestamp} (hc : b.floor? c = some c) (h : b.advance? c = some n) :
    (c < n ∧ b.floor? n = some n ∧ ∀ s, c ≤ s → s < n → b.floor? s = some c) ∨
      n = Timestamp.last ∧ ∀ s, c ≤ s → b.floor? s = some c := by
  cases hb : b.length? with
  | some k =>
    obtain ⟨hcs, hcn⟩ := (floor?_of_length hb).1 hc
    obtain ⟨hns, hnn⟩ := (advance?_of_length hb hc).1 h
    have hpos : 0 < k := by cases b <;> cases hb <;> decide
    refine .inl ⟨Timestamp.lt_of_seconds (by omega), (floor?_of_length hb).2 ⟨?_, hnn⟩,
      fun s hle hlt => (floor?_of_length hb).2 ⟨?_, hcn⟩⟩
    · cases b <;> cases hb <;> omega
    · have hle := Timestamp.seconds_le hle
      have hlt := Timestamp.seconds_lt hlt hnn
      cases b <;> cases hb <;> omega
  | none =>
    rw [advance?, hc] at h
    have hvalid := c.date.fields_valid
    have hnumber := c.date.number_eq
    cases b with
    | month =>
      have hm : 1 ≤ c.date.month ∧ c.date.month ≤ 12 := ⟨hvalid.1, hvalid.2.1⟩
      obtain rfl : nextMonth c = n := Option.some.inj h
      rcases nextMonth_cases c with ⟨d, hd, hnext, hfloor⟩ | ⟨hlast, hnone⟩
      · rw [hnext]
        exact .inl ⟨Date.lt_midnight.2 (by omega), hfloor,
          fun s hle hlt => floor?_month hm hc hle (hd ▸ Date.lt_midnight.1 hlt)⟩
      · exact .inr ⟨hlast, fun s hle => floor?_month hm hc hle (hnone s.date)⟩
    | year =>
      have hyear := c.date.year_bounds.2
      obtain rfl : nextYear c = n := Option.some.inj h
      rcases nextYear_cases c with ⟨d, hd, hnext, hfloor⟩ | ⟨hlast, hnone⟩
      · rw [hnext]
        exact .inl ⟨Date.lt_midnight.2 (by omega), hfloor,
          fun s hle hlt => floor?_year hc hle (hd ▸ Date.lt_midnight.1 hlt)⟩
      · exact .inr ⟨hlast, fun s hle => floor?_year hc hle (hnone s.date)⟩
    | _ => cases hb

section Range

variable {start stop : Timestamp} {room : Nat} {points : List Timestamp}

/-- A walk from the start of a bucket that does not run out of room meets the bucket of every later
moment. -/
theorem mem_of_walk? {c : Timestamp} (hc : b.floor? c = some c) (hct : c ≤ t) (ht : t ≤ stop)
    (hf : b.floor? t = some f) (h : b.walk? stop room c = some (some points)) : f ∈ points := by
  have hcs : c ≤ stop := Timestamp.le_trans hct ht
  induction room generalizing c points with
  | zero =>
    rw [walk?, if_pos hcs] at h
    cases h
  | succ room ih =>
    rw [walk?, if_pos hcs] at h
    obtain ⟨n, hn, h⟩ := Option.bind_eq_some_iff.1 h
    obtain ⟨rest, hrest, h⟩ := Option.bind_eq_some_iff.1 h
    obtain ⟨later, rfl, rfl⟩ := Option.map_eq_some_iff.1 (Option.some.inj h)
    rcases advance?_next hc hn with ⟨-, hfloor, hin⟩ | ⟨-, hin⟩
    · by_cases htn : t < n
      · rw [hin t hct htn] at hf
        cases hf
        exact List.mem_cons_self
      · have hnt := Timestamp.not_lt.1 htn
        exact List.mem_cons_of_mem _ (ih hfloor hnt hrest (Timestamp.le_trans hnt ht))
    · rw [hin t hct] at hf
      cases hf
      exact List.mem_cons_self

theorem length_le_of_walk? {c : Timestamp} (h : b.walk? stop room c = some (some points)) :
    points.length ≤ room := by
  induction room generalizing c points with
  | zero =>
    rw [walk?] at h
    split at h <;> cases h
    exact Nat.le_refl _
  | succ room ih =>
    rw [walk?] at h
    split at h
    · obtain ⟨n, -, h⟩ := Option.bind_eq_some_iff.1 h
      obtain ⟨rest, hrest, h⟩ := Option.bind_eq_some_iff.1 h
      obtain ⟨later, rfl, rfl⟩ := Option.map_eq_some_iff.1 (Option.some.inj h)
      exact Nat.succ_le_succ (ih hrest)
    · cases h
      exact Nat.zero_le _

/-- A window that is filled with points has at most as many as it may. -/
theorem length_le_of_range? {maxPoints : Nat} (h : b.range? start stop maxPoints = some points) :
    points.length ≤ maxPoints := by
  unfold range? at h
  split at h
  · obtain ⟨first, -, h⟩ := Option.bind_eq_some_iff.1 h
    obtain ⟨walked, hwalk, h⟩ := Option.bind_eq_some_iff.1 h
    cases h
    cases walked with
    | none => exact Nat.zero_le _
    | some points => exact length_le_of_walk? hwalk
  · cases h
    exact Nat.zero_le _

/-- No bucket of a window is missing, unless the window is refused. -/
theorem mem_of_range? {maxPoints : Nat} (h : b.range? start stop maxPoints = some points)
    (hne : points ≠ []) (hst : start ≤ t) (ht : t ≤ stop) (hf : b.floor? t = some f) :
    f ∈ points := by
  rw [range?, if_pos (Timestamp.le_trans hst ht)] at h
  obtain ⟨first, hfirst, h⟩ := Option.bind_eq_some_iff.1 h
  obtain ⟨walked, hwalk, h⟩ := Option.bind_eq_some_iff.1 h
  cases h
  cases walked with
  | none => exact absurd rfl hne
  | some points =>
    exact mem_of_walk? (floor?_floor hfirst) (Timestamp.le_trans (floor?_le hfirst) hst) ht hf hwalk

end Range

end Bucket

end IncidentBoard
