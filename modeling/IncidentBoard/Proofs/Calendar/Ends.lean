import IncidentBoard.Proofs.Calendar.Flooring

/-! The two ends of the calendar, and the windows whose walk over buckets runs off them. -/
namespace IncidentBoard

open Calendar

namespace Calendar

/-- The first Monday of the calendar: the week of the days before it begins too early. -/
def firstMonday : Int := firstDay + 4

/-- Where the last second of the calendar ends. -/
def endSecond : Int := (lastDay + 1) * 86400

end Calendar

theorem Timestamp.seconds_bounds (t : Timestamp) :
    firstDay * 86400 ≤ t.seconds ∧ t.seconds < endSecond := by
  have hfirst := t.date.first_le
  have hlast := t.date.le_last
  have hsecond := t.second_lt
  unfold seconds endSecond
  omega

theorem Date.ofNumber?_eq_none {n : Int} : ofNumber? n = none ↔ ¬(firstDay ≤ n ∧ n ≤ lastDay) := by
  unfold ofNumber?
  split <;> simp_all

/-- The calendar begins with a year. -/
theorem Date.firstDay_le_newYear (d : Date) : firstDay ≤ daysBeforeYear d.year := by
  have hfirst : daysBeforeYear (-262143) = firstDay := rfl
  have hover := d.year_bounds.2
  refine Int.not_lt.1 fun hlt => ?_
  -- A year that begins too early is over before the first day.
  have hyear : d.year < -262143 :=
    Int.not_le.1 fun hle => Int.not_le.2 hlt (hfirst ▸ daysBeforeYear_mono hle)
  have hnext := daysBeforeYear_mono (show d.year + 1 ≤ -262143 by omega)
  have := d.first_le
  omega

namespace Bucket

variable {b : Bucket} {c t start stop : Timestamp} {n room maxPoints : Nat}

/-- Only the week that the calendar begins in has no start. -/
theorem floor?_eq_none_iff : b.floor? t = none ↔ b = .week ∧ t.date.number < firstMonday := by
  have hnewYear := t.date.firstDay_le_newYear
  have hnumber := t.date.number_eq
  have hvalid := t.date.fields_valid
  have hlast := t.date.le_last
  cases b with
  | week =>
    have hmonday : firstMonday = firstDay + 4 := rfl
    have hday : firstDay = -95746130 := rfl
    simp only [floor?, Date.addDays?, Date.ofNumber?_eq_none, Date.weekday, Option.map_eq_none_iff,
      true_and]
    omega
  | month =>
    obtain ⟨f, hf⟩ : ∃ f, Bucket.month.floor? t = some f :=
      ⟨_, (firstOfMonth?_eq_some ⟨hvalid.1, hvalid.2.1⟩).2 ⟨⟨_, by omega, by omega⟩, rfl, rfl⟩⟩
    simp [hf]
  | year =>
    have hjanuary := daysBeforeMonth_one (isLeap t.date.year)
    obtain ⟨f, hf⟩ : ∃ f, Bucket.year.floor? t = some f :=
      ⟨_, (firstOfMonth?_eq_some (by decide)).2 ⟨⟨_, by omega, by omega⟩, rfl, rfl⟩⟩
    simp [hf]
  | minute | fiveMinutes | fifteenMinutes | hour | day => simp [floor?]

theorem advance?_eq_none_iff (hb : b.length? = some n) (hc : b.floor? t = some c) :
    b.advance? t = none ↔ endSecond ≤ c.seconds + n := by
  have hfirst := c.seconds_bounds.1
  constructor
  · intro hnone
    refine Int.not_lt.1 fun hlt => ?_
    obtain ⟨s, hs⟩ := Timestamp.exists_seconds (n := c.seconds + n) (by omega) hlt
    rw [(advance?_of_length hb hc).2 hs] at hnone
    cases hnone
  · intro hend
    rw [Option.eq_none_iff_forall_ne_some]
    intro s hs
    have hsum := (advance?_of_length hb hc).1 hs
    have hlast := s.seconds_bounds.2
    omega

/-- A walk over buckets of one length fails at the last bucket of the calendar, if it gets there. -/
theorem walk?_eq_none_iff (hb : b.length? = some n) (hc : b.floor? c = some c) :
    b.walk? stop room c = none ↔
      c ≤ stop ∧ endSecond ≤ n * (stop.seconds / n + 1) ∧
        stop.seconds / n - c.seconds / n < room := by
  induction room generalizing c with
  | zero =>
    rw [walk?]
    by_cases hcs : c ≤ stop
    · have hle := Timestamp.seconds_le hcs
      rw [if_pos hcs]
      simp only [reduceCtorEq, hcs, true_and, false_iff, not_and]
      cases b <;> cases hb <;> omega
    · simp [hcs]
  | succ room ih =>
    rw [walk?]
    by_cases hcs : c ≤ stop
    · have hstart := ((floor?_of_length hb).1 hc).1
      have hle := Timestamp.seconds_le hcs
      have hlast := stop.seconds_bounds.2
      rw [if_pos hcs]
      cases hnext : b.advance? c with
      | none =>
        -- The window ends in the bucket that has no next one.
        have hend := (advance?_eq_none_iff hb hc).1 hnext
        simp only [Option.bind_eq_bind, Option.bind_none, hcs, true_and, true_iff]
        cases b <;> cases hb <;> omega
      | some next =>
        obtain ⟨hsum, hnano⟩ := (advance?_of_length hb hc).1 hnext
        have hfloor : b.floor? next = some next :=
          (floor?_of_length hb).2 ⟨by cases b <;> cases hb <;> omega, hnano⟩
        have hfits := next.seconds_bounds.2
        have hiff : next ≤ stop ↔ next.seconds ≤ stop.seconds :=
          ⟨Timestamp.seconds_le, fun h => Timestamp.le_of_seconds h hnano⟩
        simp only [Option.bind_eq_bind, Option.bind_some, Option.bind_eq_none_iff, reduceCtorEq,
          imp_false, Option.pure_def]
        rw [← Option.eq_none_iff_forall_ne_some, ih hfloor, hiff]
        simp only [hcs, true_and]
        cases b <;> cases hb <;> omega
    · simp [hcs]

/-- Months and years end with the calendar. -/
theorem exists_advance?_of_floor? (hb : b.length? = none) (hc : b.floor? t = some c) :
    ∃ n, b.advance? t = some n := by
  rw [advance?, hc]
  cases b with
  | month => exact ⟨nextMonth c, rfl⟩
  | year => exact ⟨nextYear c, rfl⟩
  | _ => cases hb

theorem walk?_ne_none (hb : b.length? = none) : b.walk? stop room c ≠ none := by
  induction room generalizing c with
  | zero =>
    rw [walk?]
    split <;> simp
  | succ room ih =>
    have hweek : b ≠ .week := by
      rintro rfl
      cases hb
    obtain ⟨f, hf⟩ :=
      Option.ne_none_iff_exists'.1 fun hnone => hweek (floor?_eq_none_iff (t := c).1 hnone).1
    obtain ⟨next, hnext⟩ := exists_advance?_of_floor? hb hf
    obtain ⟨points, hpoints⟩ := Option.ne_none_iff_exists'.1 (ih (c := next))
    rw [walk?, hnext]
    split <;> simp [hpoints]

/-- The walk over the buckets of a window runs off the calendar: before its first bucket, or behind
its last one, which it reaches unless there are too many. -/
inductive Leaves (start stop : Timestamp) (maxPoints : Nat) : Bucket → Prop
  | before (h : start.date.number < firstMonday) : Leaves start stop maxPoints .week
  | behind {b : Bucket} {n : Nat} (hb : b.length? = some n)
      (hend : endSecond ≤ n * (stop.seconds / n + 1))
      (hroom : stop.seconds / n - start.seconds / n < maxPoints) : Leaves start stop maxPoints b

theorem range?_eq_none_iff :
    b.range? start stop maxPoints = none ↔ start ≤ stop ∧ Leaves start stop maxPoints b := by
  rw [range?]
  by_cases hle : start ≤ stop
  · rw [if_pos hle, and_iff_right hle]
    cases hfloor : b.floor? start with
    | none =>
      obtain ⟨rfl, hday⟩ := floor?_eq_none_iff.1 hfloor
      simp only [Option.bind_eq_bind, Option.bind_none, true_iff]
      exact .before hday
    | some f =>
      have hstarts : ¬(b = .week ∧ start.date.number < firstMonday) := by
        rw [← floor?_eq_none_iff, hfloor]
        exact Option.some_ne_none f
      simp only [Option.bind_eq_bind, Option.bind_some, Option.pure_def, Option.bind_eq_none_iff,
        reduceCtorEq, imp_false]
      rw [← Option.eq_none_iff_forall_ne_some]
      cases hb : b.length? with
      | none =>
        rw [iff_false_left (walk?_ne_none hb)]
        rintro (hday | hlength)
        · exact hstarts ⟨rfl, hday⟩
        · simp_all
      | some n =>
        have hf := ((floor?_of_length hb).1 hfloor).1
        have hquotient : f.seconds / n = start.seconds / n := by cases b <;> cases hb <;> omega
        rw [walk?_eq_none_iff hb (floor?_floor hfloor), hquotient,
          and_iff_right (Timestamp.le_trans (floor?_le hfloor) hle)]
        constructor
        · rintro ⟨hend, hroom⟩
          exact .behind hb hend hroom
        · rintro (hday | ⟨hlength, hend, hroom⟩)
          · exact absurd ⟨rfl, hday⟩ hstarts
          · rw [hb, Option.some.injEq] at hlength
            exact ⟨hlength ▸ hend, hlength ▸ hroom⟩
  · simp [hle]

end Bucket

end IncidentBoard
