import IncidentBoard.Proofs.Calendar.Partition
import Mathlib.Data.Set.Card

/-! The points of a window are the bucket starts in it, unless they are too many. -/
namespace IncidentBoard.Bucket

open Calendar

variable {b : Bucket} {c f n p start stop t : Timestamp} {room maxPoints : Nat}
  {points : List Timestamp}

/-- The bucket starts from `first` to `stop`. -/
def starts (b : Bucket) (first stop : Timestamp) : Set Timestamp :=
  {p | b.floor? p = some p ∧ first ≤ p ∧ p ≤ stop}

theorem exists_advance? (hc : b.floor? c = some c) (hp : b.floor? p = some p) (hcp : c < p) :
    ∃ n, b.advance? c = some n := by
  cases hb : b.length? with
  | some k =>
    refine Option.ne_none_iff_exists'.1 fun hnone => ?_
    have hend := (advance?_eq_none_iff hb hc).1 hnone
    have hstart := ((floor?_of_length hb).1 hc).1
    obtain ⟨hlater, hnano⟩ := (floor?_of_length hb).1 hp
    have hlt := Timestamp.seconds_lt hcp hnano
    have hlast := p.seconds_bounds.2
    cases b <;> cases hb <;> omega
  | none => exact exists_advance?_of_floor? hb hc

/-- A bucket before another one ends in the calendar. -/
theorem exists_lasts (hf : b.floor? t = some f) (hp : b.floor? p = some p) (htp : t < p) :
    ∃ n, b.Lasts t f n := by
  have hff := floor?_floor hf
  have hfp := Timestamp.lt_of_le_of_lt (floor?_le hf) htp
  obtain ⟨n, hn⟩ := exists_advance? hff hp hfp
  refine ⟨n, hf, (advance?_floor hf).symm.trans hn, ?_⟩
  rcases advance?_next hff hn with ⟨-, hfloor, -⟩ | ⟨-, hrest⟩
  · exact ne_last_of_floor? hfloor
  · have hsame := hrest p (Timestamp.le_of_lt hfp)
    rw [hp, Option.some.injEq] at hsame
    exact absurd (hsame ▸ hfp) (Timestamp.lt_irrefl p)

theorem starts_eq_empty (h : stop < c) : b.starts c stop = ∅ := by
  refine Set.eq_empty_of_forall_notMem fun p hp => ?_
  obtain ⟨-, hcp, hps⟩ := hp
  exact Timestamp.not_le.2 h (Timestamp.le_trans hcp hps)

/-- Behind the first start come those from the next one on. -/
theorem mem_starts_iff (h : b.Lasts c c n) (hcs : c ≤ stop) :
    p ∈ b.starts c stop ↔ p = c ∨ p ∈ b.starts n stop := by
  obtain ⟨hcn, -, -⟩ := h.next
  constructor
  · rintro ⟨hp, hcp, hps⟩
    by_cases hpn : p < n
    · exact .inl (h.start_eq hp hcp hpn)
    · exact .inr ⟨hp, Timestamp.not_lt.1 hpn, hps⟩
  · rintro (rfl | ⟨hp, hnp, hps⟩)
    · exact ⟨h.floor, Timestamp.le_refl _, hcs⟩
    · exact ⟨hp, Timestamp.le_trans (Timestamp.le_of_lt hcn) hnp, hps⟩

theorem walk?_past (h : stop < c) :
    b.walk? stop room c = some (some []) ∧ ∀ p ∈ b.starts c stop, p ∈ ([] : List Timestamp) := by
  have hcs := Timestamp.not_le.2 h
  refine ⟨?_, by simp [starts_eq_empty h]⟩
  cases room with
  | zero => exact if_neg hcs
  | succ room => exact if_neg hcs

/-- A walk that stays in the calendar meets starts of its window in order: all of them, or one more
than there is room for. -/
theorem exists_starts_of_walk? (room : Nat) (hc : b.floor? c = some c) (hn : b.floor? n = some n)
    (hlt : stop < n) :
    ∃ points : List Timestamp, points.Pairwise (· < ·) ∧ (∀ p ∈ points, p ∈ b.starts c stop) ∧
      (b.walk? stop room c = some (some points) ∧ (∀ p ∈ b.starts c stop, p ∈ points) ∨
        b.walk? stop room c = some none ∧ points.length = room + 1) := by
  induction room generalizing c with
  | zero =>
    by_cases hcs : c ≤ stop
    · refine ⟨[c], List.pairwise_singleton _ c, ?_, .inr ⟨if_pos hcs, rfl⟩⟩
      exact List.forall_mem_singleton.2 ⟨hc, Timestamp.le_refl c, hcs⟩
    · exact ⟨[], .nil, List.forall_mem_nil _, .inl (walk?_past (Timestamp.not_le.1 hcs))⟩
  | succ room ih =>
    by_cases hcs : c ≤ stop
    · obtain ⟨next, hlasts⟩ := exists_lasts hc hn (Timestamp.lt_of_le_of_lt hcs hlt)
      obtain ⟨hcnext, hnext, -⟩ := hlasts.next
      obtain ⟨rest, hascending, hrest, hwalk⟩ := ih hnext
      have hfirst : ∀ p ∈ rest, c < p :=
        fun p hp => Timestamp.lt_of_lt_of_le hcnext (hrest p hp).2.1
      refine ⟨c :: rest, List.pairwise_cons.2 ⟨hfirst, hascending⟩, ?_, ?_⟩
      · intro p hp
        exact (mem_starts_iff hlasts hcs).2 ((List.mem_cons.1 hp).imp_right (hrest p))
      · rw [walk?, if_pos hcs, hlasts.advance]
        rcases hwalk with ⟨hwalk, hall⟩ | ⟨hwalk, hlength⟩
        · refine .inl ⟨by simp [hwalk], fun p hp => ?_⟩
          exact List.mem_cons.2 (((mem_starts_iff hlasts hcs).1 hp).imp_right (hall p))
        · exact .inr ⟨by simp [hwalk], by rw [List.length_cons, hlength]⟩
    · exact ⟨[], .nil, List.forall_mem_nil _, .inl (walk?_past (Timestamp.not_le.1 hcs))⟩

theorem encard_of_ascending (h : points.Pairwise (· < ·)) :
    {p | p ∈ points}.encard = points.length := by
  have hnodup : points.Nodup := by
    apply h.imp
    rintro p q hpq rfl
    exact Timestamp.lt_irrefl p hpq
  rw [← List.coe_toFinset, Set.encard_coe_eq_coe_finsetCard, List.toFinset_card_of_nodup hnodup]

theorem head?_of_ascending (h : points.Pairwise (· < ·)) (hf : f ∈ points)
    (hle : ∀ p ∈ points, f ≤ p) :
    points.head? = some f := by
  cases points with
  | nil => cases hf
  | cons first rest =>
    rcases List.mem_cons.1 hf with rfl | hrest
    · rfl
    · have hlt := (List.pairwise_cons.1 h).1 f hrest
      exact absurd hlt (Timestamp.not_lt.2 (hle first List.mem_cons_self))

/-- A walk that stays in the calendar gives the starts of its window if there is room for them. -/
theorem walk?_cases (room : Nat) (hc : b.floor? c = some c) (hn : b.floor? n = some n)
    (hlt : stop < n) :
    (∃ points, b.walk? stop room c = some (some points) ∧ (b.starts c stop).encard = points.length ∧
        points.Pairwise (· < ·) ∧ ∀ p, p ∈ points ↔ p ∈ b.starts c stop) ∨
      b.walk? stop room c = some none ∧ room < (b.starts c stop).encard := by
  obtain ⟨points, hascending, hstarts, ⟨hwalk, hall⟩ | ⟨hwalk, hlength⟩⟩ :=
    exists_starts_of_walk? room hc hn hlt
  · have hmem (p : Timestamp) : p ∈ points ↔ p ∈ b.starts c stop := ⟨hstarts p, hall p⟩
    refine .inl ⟨points, hwalk, ?_, hascending, hmem⟩
    rw [← encard_of_ascending hascending]
    exact congrArg Set.encard (Set.ext fun p => (hmem p).symm)
  · refine .inr ⟨hwalk, ?_⟩
    calc (room : ℕ∞) < (points.length : ℕ∞) := by rw [hlength]; exact_mod_cast Nat.lt_succ_self room
      _ = {p | p ∈ points}.encard := (encard_of_ascending hascending).symm
      _ ≤ (b.starts c stop).encard := Set.encard_le_encard hstarts

/-- The points of a window are the bucket starts from the one that holds `start` to `stop`, in
order, if they are at most `maxPoints`; the calendar has to go on behind the last of these
buckets. -/
theorem starts_of_range? (start stop : Timestamp) (maxPoints : Nat) (hf : b.floor? start = some f)
    (hn : b.floor? n = some n) (hlt : stop < n) :
    ∃ points, b.range? start stop maxPoints = some points ∧ points.length ≤ maxPoints ∧
      (stop < start → points = []) ∧
      (start ≤ stop → maxPoints < (b.starts f stop).encard → points = []) ∧
      (start ≤ stop → (b.starts f stop).encard ≤ maxPoints →
        points.head? = some f ∧ points.Pairwise (· < ·) ∧ ∀ p, p ∈ points ↔
          p ∈ b.starts f stop) := by
  by_cases hle : start ≤ stop
  · have hne : ¬ stop < start := Timestamp.not_lt.2 hle
    rcases walk?_cases maxPoints (floor?_floor hf) hn hlt with
      ⟨points, hwalk, hcard, hascending, hmem⟩ | ⟨hwalk, hcard⟩
    · have hroom := length_le_of_walk? hwalk
      have hfirst : f ∈ b.starts f stop :=
        ⟨floor?_floor hf, Timestamp.le_refl f, Timestamp.le_trans (floor?_le hf) hle⟩
      refine ⟨points, by simp [range?, hle, hf, hwalk], hroom, fun h => absurd h hne,
        fun _ hover => ?_, fun _ _ => ?_⟩
      · rw [hcard, Nat.cast_lt] at hover
        exact absurd hroom (Nat.not_le.2 hover)
      · exact ⟨head?_of_ascending hascending ((hmem f).2 hfirst) fun p hp => ((hmem p).1 hp).2.1,
          hascending, hmem⟩
    · refine ⟨[], by simp [range?, hle, hf, hwalk], Nat.zero_le _, fun _ => rfl,
        fun _ _ => rfl, fun _ hfits => ?_⟩
      exact absurd hcard (not_lt.2 hfits)
  · refine ⟨[], if_neg hle, Nat.zero_le _, fun _ => rfl, fun h => absurd h hle,
      fun h => absurd h hle⟩

section Quarter

/-- 1 January 2024. -/
def january : Timestamp := Date.midnight ⟨738885, by decide, by decide⟩

def february : Timestamp := Date.midnight ⟨738916, by decide, by decide⟩

def march : Timestamp := Date.midnight ⟨738945, by decide, by decide⟩

def april : Timestamp := Date.midnight ⟨738976, by decide, by decide⟩

/-- A window from noon of 15 January that ends as the third month begins, with room for three. -/
theorem starts_of_range?_quarter :
    ∃ start, start ≤ march ∧ march < april ∧ Bucket.month.floor? start = some january ∧
      Bucket.month.range? start march 3 = some [january, february, march] ∧
      ∀ p, p ∈ [january, february, march] ↔ p ∈ Bucket.month.starts january march := by
  let start : Timestamp := ⟨⟨738899, by decide, by decide⟩, 43200, 0, by decide, by decide⟩
  have hpoints : Bucket.month.range? start march 3 = some [january, february, march] := by decide
  have hle : start ≤ march := by decide
  have hfloor : Bucket.month.floor? start = some january := by decide
  obtain ⟨points, hrange, -, -, hover, hfits⟩ :=
    starts_of_range? start march 3 hfloor (n := april) (by decide) (by decide)
  obtain rfl : [january, february, march] = points := Option.some.inj (hpoints.symm.trans hrange)
  have hroom : (Bucket.month.starts january march).encard ≤ (3 : Nat) := by
    refine not_lt.1 fun h => ?_
    cases hover hle h
  exact ⟨start, hle, by decide, hfloor, hpoints, (hfits hle hroom).2.2⟩

end Quarter

end IncidentBoard.Bucket
