import IncidentBoard.Proofs.Calendar.Ends

/-! Buckets partition time: between the start of one and the start of the next lie exactly its
moments. -/
namespace IncidentBoard.Bucket

open Calendar

variable {b : Bucket} {s t f g n p : Timestamp}

/-- The bucket of `t` lasts from `f` up to `n`, where the next one begins. A month or year that the
calendar ends in has no next one, and its step stops at the last moment. -/
structure Lasts (b : Bucket) (t f n : Timestamp) : Prop where
  floor : b.floor? t = some f
  advance : b.advance? t = some n
  ne_last : n ≠ Timestamp.last

theorem nano_of_floor? (h : b.floor? t = some f) : f.nano = 0 := by
  cases hb : b.length? with
  | some k => exact ((floor?_of_length hb).1 h).2
  | none =>
    cases b with
    | month | year =>
      obtain ⟨d, -, rfl⟩ := Option.map_eq_some_iff.1 h
      exact Date.nano_midnight d
    | _ => cases hb

/-- The calendar ends within a second, where no bucket begins. -/
theorem ne_last_of_floor? (h : b.floor? t = some f) : f ≠ Timestamp.last := by
  rintro rfl
  exact absurd (nano_of_floor? h) (by decide)

theorem floor?_le_floor? (hs : b.floor? s = some g) (ht : b.floor? t = some f) (hst : s ≤ t) :
    g ≤ f := by
  by_cases hfs : f ≤ s
  · have hsame := floor?_between ht hfs hst
    rw [hs, Option.some.injEq] at hsame
    exact hsame ▸ Timestamp.le_refl f
  · exact Timestamp.le_trans (floor?_le hs) (Timestamp.le_of_lt (Timestamp.not_le.1 hfs))

/-- A bucket has one start. -/
theorem start_unique (ht : b.floor? t = some f) (hp : b.floor? p = some p) (hfp : f ≤ p)
    (hpt : p ≤ t) :
    p = f := by
  have hsame := floor?_between ht hfp hpt
  exact Option.some.inj (hp.symm.trans hsame)

/-- The step depends on the bucket alone. -/
theorem advance?_floor (h : b.floor? t = some f) : b.advance? f = b.advance? t := by
  rw [advance?, advance?, h, floor?_floor h]

namespace Lasts

theorem at_floor (h : b.Lasts t f n) : b.Lasts f f n :=
  ⟨floor?_floor h.floor, (advance?_floor h.floor).trans h.advance, h.ne_last⟩

theorem next (h : b.Lasts t f n) :
    f < n ∧ b.floor? n = some n ∧ ∀ s, f ≤ s → s < n → b.floor? s = some f := by
  have hstart := h.at_floor
  rcases advance?_next hstart.floor hstart.advance with hnext | ⟨hlast, -⟩
  · exact hnext
  · exact absurd hlast h.ne_last

theorem floor?_eq_iff (h : b.Lasts t f n) : b.floor? s = some f ↔ f ≤ s ∧ s < n := by
  obtain ⟨hfn, hn, hwithin⟩ := h.next
  constructor
  · intro hs
    refine ⟨floor?_le hs, Timestamp.not_le.1 fun hns => ?_⟩
    -- The next bucket would begin within this one.
    have hsame := start_unique hs hn (Timestamp.le_of_lt hfn) hns
    exact Timestamp.lt_irrefl f (hsame ▸ hfn)
  · rintro ⟨hfs, hsn⟩
    exact hwithin s hfs hsn

theorem start_eq (h : b.Lasts t f n) (hp : b.floor? p = some p) (hfp : f ≤ p) (hpn : p < n) :
    p = f :=
  start_unique (h.floor?_eq_iff.2 ⟨hfp, hpn⟩) hp hfp (Timestamp.le_refl p)

theorem not_between (h : b.Lasts t f n) (hp : b.floor? p = some p) : ¬(f < p ∧ p < n) := by
  rintro ⟨hfp, hpn⟩
  have hsame := h.start_eq hp (Timestamp.le_of_lt hfp) hpn
  exact Timestamp.lt_irrefl f (hsame ▸ hfp)

end Lasts

/-- Buckets partition time. -/
theorem partition_of_lasts (h : b.Lasts t f n) :
    (f ≤ t ∧ t < n) ∧ b.floor? f = some f ∧ b.floor? n = some n ∧ b.advance? f = some n ∧
      (∀ s g, b.floor? s = some g → s ≤ t → g ≤ f) ∧
      (∀ p, b.floor? p = some p → ¬(f < p ∧ p < n)) ∧
      ∀ s, b.floor? s = b.floor? t ↔ f ≤ s ∧ s < n := by
  have hstart := h.at_floor
  refine ⟨h.floor?_eq_iff.1 h.floor, hstart.floor, h.next.2.1, hstart.advance, ?_, ?_, ?_⟩
  · exact fun s g hs hst => floor?_le_floor? hs h.floor hst
  · exact fun p hp => h.not_between hp
  · intro s
    rw [h.floor]
    exact h.floor?_eq_iff

/-- 29 February -4. -/
def leapDay : Date := ⟨-1768, by decide, by decide⟩

/-- Half of a leap second that ends the day. -/
def leapSecond : Timestamp := ⟨leapDay, 86399, 1500000000, Timestamp.last.second_lt, by decide⟩

theorem partition_of_lasts_leapSecond :
    ∃ f n, Bucket.month.Lasts leapSecond f n ∧ (f ≤ leapSecond ∧ leapSecond < n) ∧
      Bucket.month.floor? n = some n ∧
      (Bucket.month.floor? leapDay.midnight = Bucket.month.floor? leapSecond ↔
        f ≤ leapDay.midnight ∧ leapDay.midnight < n) := by
  have hlasts : Bucket.month.Lasts leapSecond (Date.midnight ⟨-1796, by decide, by decide⟩)
      (Date.midnight ⟨-1767, by decide, by decide⟩) :=
    ⟨by decide, by decide, by decide⟩
  obtain ⟨hin, -, hnext, -, -, -, hsame⟩ := partition_of_lasts hlasts
  exact ⟨_, _, hlasts, hin, hnext, hsame leapDay.midnight⟩

end IncidentBoard.Bucket
