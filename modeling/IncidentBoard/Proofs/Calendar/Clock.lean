import IncidentBoard.Calendar.Text
import IncidentBoard.Proofs.Calendar.Flooring

/-! The clock of a moment, and its sort key field by field. -/
namespace IncidentBoard

open Calendar Text

namespace Calendar

theorem yearText_of_digits {year : Int} (h : 0 ≤ year ∧ year ≤ 9999) :
    yearText year = padded 4 year.toNat :=
  if_pos h

end Calendar

namespace Timestamp

variable {t : Timestamp}

theorem hour_lt (t : Timestamp) : t.hour < 24 := by
  have := t.second_lt
  unfold hour
  omega

theorem minute_lt (t : Timestamp) : t.minute < 60 := Nat.mod_lt _ (by decide)

theorem second_eq_clock (t : Timestamp) :
    t.hour * 3600 + t.minute * 60 + t.second % 60 = t.second := by
  unfold hour minute
  omega

theorem clockSecond_eq (h : t.nano < 1000000000) : t.clockSecond = t.second % 60 := by
  unfold clockSecond
  omega

theorem fraction_lt (t : Timestamp) : t.fraction < 1000000000 := Nat.mod_lt _ (by decide)

/-- A moment is the one that its clock shows. -/
theorem ofClock?_fields (t : Timestamp) :
    ofClock? t.date t.hour t.minute t.clockSecond t.fraction = some t := by
  have hclock := t.second_eq_clock
  have hmod := Nat.mod_lt t.second (show 0 < 60 by decide)
  have hnano := t.nano_lt
  rw [ofClock?, if_pos ⟨t.hour_lt, t.minute_lt, t.fraction_lt⟩]
  by_cases hleap : t.nano < 1000000000
  · have hfraction : t.fraction = t.nano := Nat.mod_eq_of_lt hleap
    rw [clockSecond_eq hleap, if_pos hmod, hfraction, hclock]
    exact ofParts?_eq_some.2 ⟨rfl, rfl, rfl⟩
  · have hlast : t.second % 60 = 59 := by
      split at hnano <;> omega
    rw [if_pos hlast] at hnano
    have hsecond : t.clockSecond = 60 := by
      unfold clockSecond
      omega
    have hfraction : t.fraction + 1000000000 = t.nano := by
      unfold fraction
      omega
    rw [hsecond, if_neg (by decide), if_pos rfl, hfraction, ← hlast, hclock]
    exact ofParts?_eq_some.2 ⟨rfl, rfl, rfl⟩

/-- A clock shows its fields and no others. -/
theorem ofClock?_eq_some {d : Date} {hour minute second nano : Nat} :
    ofClock? d hour minute second nano = some t ↔
      t.date = d ∧ t.hour = hour ∧ t.minute = minute ∧ t.clockSecond = second ∧
        t.fraction = nano := by
  constructor
  · intro h
    unfold ofClock? at h
    split at h
    · next hvalid =>
      split at h
      · obtain ⟨hdate, hs, hn⟩ := ofParts?_eq_some.1 h
        refine ⟨hdate, ?_⟩
        simp only [Timestamp.hour, Timestamp.minute, clockSecond, fraction]
        omega
      · split at h
        · obtain ⟨hdate, hs, hn⟩ := ofParts?_eq_some.1 h
          refine ⟨hdate, ?_⟩
          simp only [Timestamp.hour, Timestamp.minute, clockSecond, fraction]
          omega
        · cases h
    · cases h
  · rintro ⟨rfl, rfl, rfl, rfl, rfl⟩
    exact t.ofClock?_fields

/-- Without its fraction. -/
def wholeSecond (t : Timestamp) : Timestamp where
  date := t.date
  second := t.second
  nano := 0
  second_lt := t.second_lt
  nano_lt := by split <;> decide

@[simp] theorem date_wholeSecond (t : Timestamp) : t.wholeSecond.date = t.date := rfl

@[simp] theorem second_wholeSecond (t : Timestamp) : t.wholeSecond.second = t.second := rfl

@[simp] theorem hour_wholeSecond (t : Timestamp) : t.wholeSecond.hour = t.hour := rfl

@[simp] theorem minute_wholeSecond (t : Timestamp) : t.wholeSecond.minute = t.minute := rfl

/-- Whole seconds since midnight of 1 January 1970. -/
def epochSeconds (t : Timestamp) : Int := (t.date.number - 719162) * 86400 + t.second

theorem ofEpochSeconds?_eq_some {n : Int} :
    ofEpochSeconds? n = some t ↔ t.epochSeconds = n ∧ t.nano = 0 := by
  have hsecond := t.second_lt
  simp only [ofEpochSeconds?, Option.bind_eq_bind, Option.bind_eq_some_iff, Date.ofNumber?_eq_some,
    ofParts?_eq_some, epochSeconds]
  constructor
  · rintro ⟨d, hd, rfl, hclock, hnano⟩
    omega
  · rintro ⟨hn, hnano⟩
    exact ⟨t.date, by omega, rfl, by omega, hnano⟩

theorem ofEpochSeconds?_epochSeconds (t : Timestamp) :
    ofEpochSeconds? t.epochSeconds = some t.wholeSecond :=
  ofEpochSeconds?_eq_some.2 ⟨rfl, rfl⟩

theorem ofEpochSeconds?_eq_none {n : Int} :
    ofEpochSeconds? n = none ↔ ∀ t : Timestamp, t.epochSeconds ≠ n := by
  rw [Option.eq_none_iff_forall_ne_some]
  constructor
  · rintro h t rfl
    exact h _ t.ofEpochSeconds?_epochSeconds
  · exact fun h t ht => h t (ofEpochSeconds?_eq_some.1 ht).1

/-- The layout of sort keys, field by field. -/
def layout (year month day hour minute second : Nat) : List Char :=
  padded 4 year ++ '-' :: (padded 2 month ++ '-' :: (padded 2 day ++ 'T' ::
    (padded 2 hour ++ ':' :: (padded 2 minute ++ ':' :: padded 2 second))))

theorem sortKey_eq (t : Timestamp) (hyear : 0 ≤ t.date.year ∧ t.date.year ≤ 9999)
    (hleap : t.nano < 1000000000) :
    t.sortKey = String.ofList
      (layout t.date.year.toNat t.date.month t.date.day t.hour t.minute (t.second % 60)) := by
  simp [sortKey, Date.text, Date.monthText, yearText_of_digits hyear, clockText, minuteText,
    clockSecond_eq hleap, layout]

theorem sortKey_midnight (d : Date) (hyear : 0 ≤ d.year ∧ d.year ≤ 9999) :
    d.midnight.sortKey = String.ofList (layout d.year.toNat d.month d.day 0 0 0) := by
  rw [sortKey_eq d.midnight hyear (Nat.zero_lt_succ _)]
  simp only [Date.midnight, hour, minute, Nat.zero_div, Nat.zero_mod]

theorem sortKey_of_ofYMD? {d : Date} {year : Int} {month day : Nat}
    (hd : Date.ofYMD? year month day = some d) (hyear : 0 ≤ d.year ∧ d.year ≤ 9999) :
    d.midnight.sortKey = String.ofList (layout year.toNat month day 0 0 0) := by
  obtain ⟨rfl, rfl, rfl⟩ := Date.fields_of_ofYMD? hd
  exact sortKey_midnight d hyear

/-- The last multiple of `k` minutes of the hour. -/
theorem sortKey_floorMinutes (hyear : 0 ≤ t.date.year ∧ t.date.year ≤ 9999) {k : Nat}
    (hk : k = 1 ∨ k = 5 ∨ k = 15 ∨ k = 60) :
    (t.floorSeconds (60 * k)).sortKey = String.ofList
      (layout t.date.year.toNat t.date.month t.date.day t.hour (t.minute / k * k) 0) := by
  have hhour : (t.floorSeconds (60 * k)).hour = t.hour := by
    simp only [hour, floorSeconds]
    rcases hk with rfl | rfl | rfl | rfl <;> omega
  have hminute : (t.floorSeconds (60 * k)).minute = t.minute / k * k := by
    simp only [minute, floorSeconds]
    rcases hk with rfl | rfl | rfl | rfl <;> omega
  have hsecond : (t.floorSeconds (60 * k)).second % 60 = 0 := by
    simp only [floorSeconds]
    rcases hk with rfl | rfl | rfl | rfl <;> omega
  rw [sortKey_eq (t.floorSeconds (60 * k)) hyear (Nat.zero_lt_succ _), hhour, hminute, hsecond]
  rfl

end Timestamp

end IncidentBoard
