import IncidentBoard.Text.Upper
import Mathlib.Data.List.Basic

/-! Upper case brings in letters and marks only: what stands below `A` in a name stood there
before. -/
namespace IncidentBoard.Text

theorem toNat_ofNat_eq (n : Nat) : (Char.ofNat n).toNat = n ∨ (Char.ofNat n).toNat = 0 := by
  by_cases h : n.isValidChar
  · rw [Char.ofNat, dif_pos h]
    exact .inl rfl
  · rw [Char.ofNat, dif_neg h]
    exact .inr rfl

/-- A code point moved by its run is past `A`. -/
theorem upperOffset_past {runs : List (Nat × Nat × Nat × Int)}
    (h : ∀ r ∈ runs, 0x41 ≤ (r.1 : Int) + r.2.2.2) (n : Nat) :
    upperOffset n runs = 0 ∨ 0x41 ≤ (n : Int) + upperOffset n runs := by
  induction runs with
  | nil => exact .inl rfl
  | cons r runs ih =>
    obtain ⟨first, last, step, offset⟩ := r
    obtain ⟨hr, hruns⟩ := List.forall_mem_cons.1 h
    have hr : 0x41 ≤ (first : Int) + offset := hr
    rw [upperOffset]
    split
    · next hn => exact .inr (by omega)
    · exact ih hruns

theorem upperExpansions_past (n : Nat) : ∀ m ∈ (upperExpansions.lookup n).getD [], 0x41 ≤ m := by
  have h : ∀ e ∈ upperExpansions, ∀ m ∈ e.2, 0x41 ≤ m := by decide +kernel
  cases hl : upperExpansions.lookup n with
  | none => simp
  | some expansion =>
    obtain ⟨l₁, l₂, hl, -⟩ := List.lookup_eq_some_iff.1 hl
    exact h (n, expansion) (by simp [hl])

theorem upperRuns_past : ∀ r ∈ upperRuns, 0x41 ≤ (r.1 : Int) + r.2.2.2 := by decide +kernel

theorem mem_upperChar_of_lt {c a : Char} (h : c ∈ upperChar a) (hpos : 0 < c.toNat)
    (hlt : c.toNat < 0x41) :
    c = a := by
  have far {n : Nat} (hn : 0x41 ≤ n) : c ≠ Char.ofNat n := by
    rintro rfl
    have := toNat_ofNat_eq n
    omega
  have hexpansions := upperExpansions_past a.toNat
  unfold upperChar at h
  split at h
  · next expansion he =>
    obtain ⟨n, hn, rfl⟩ := List.mem_map.1 h
    exact absurd rfl (far (hexpansions n (by simpa [he] using hn)))
  · rw [List.mem_singleton] at h
    obtain hstay | hmove := upperOffset_past upperRuns_past a.toNat
    · rwa [hstay, Int.add_zero, Int.toNat_natCast, Char.ofNat_toNat] at h
    · exact absurd h (far (by omega))

theorem mem_upper_of_lt {s : String} {c : Char} (h : c ∈ (upper s).toList) (hpos : 0 < c.toNat)
    (hlt : c.toNat < 0x41) : c ∈ s.toList := by
  rw [upper, String.toList_ofList, List.mem_flatMap] at h
  obtain ⟨a, ha, hc⟩ := h
  rwa [mem_upperChar_of_lt hc hpos hlt]

end IncidentBoard.Text
