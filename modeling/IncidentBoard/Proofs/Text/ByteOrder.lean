import IncidentBoard.Text.Utf8
import Mathlib.Data.List.Basic

/-! Texts are ordered as the bytes of their UTF-8 forms are. -/
namespace IncidentBoard.Text

theorem bytes_eq (s : String) : bytes s = s.toList.flatMap String.utf8EncodeChar := by
  obtain ⟨l, rfl⟩ := s.exists_eq_ofList
  simp [bytes, List.utf8Encode]

/-- The first byte that differs decides, whatever follows. -/
theorem encode_lt_encode {c d : Char} (h : c < d) (xs ys : List UInt8) :
    String.utf8EncodeChar c ++ xs < String.utf8EncodeChar d ++ ys := by
  have hcd : c.val.toNat < d.val.toNat := h
  have hd : d.val.toNat < 1114112 := by
    rcases d.valid with h | h <;> omega
  -- The bits of two code points first differ in one of the groups of six.
  have h18 := Nat.div_le_div_right (c := 262144) (Nat.le_of_lt hcd)
  have h12 := Nat.div_le_div_right (c := 4096) (Nat.le_of_lt hcd)
  have h6 := Nat.div_le_div_right (c := 64) (Nat.le_of_lt hcd)
  simp only [String.utf8EncodeChar]
  repeat' split
  all_goals
    simp only [List.cons_append, List.nil_append, List.cons_lt_cons_iff, UInt8.lt_iff_toNat_lt,
      ← UInt8.toNat_inj, UInt8.toNat_ofNat']
    rcases Nat.lt_or_eq_of_le h18 with h18 | h18
    · omega
    rcases Nat.lt_or_eq_of_le h12 with h12 | h12
    · omega
    rcases Nat.lt_or_eq_of_le h6 with h6 | h6 <;> omega

theorem encode_lt_of_lt {cs ds : List Char} (h : cs < ds) :
    cs.flatMap String.utf8EncodeChar < ds.flatMap String.utf8EncodeChar := by
  induction h with
  | nil =>
    next d ds =>
    have hd : String.utf8EncodeChar d ≠ [] := by
      rw [← List.length_pos_iff, String.length_utf8EncodeChar]
      exact d.utf8Size_pos
    obtain ⟨b, bs, hbytes⟩ := List.exists_cons_of_ne_nil hd
    rw [List.flatMap_cons, hbytes]
    exact List.Lex.nil
  | cons h ih => exact List.append_left_lt ih
  | rel h => exact encode_lt_encode h _ _

/-- Code points and bytes order texts alike. -/
theorem bytes_lt_bytes {s t : String} (h : s < t) : bytes s < bytes t := by
  rw [bytes_eq, bytes_eq]
  exact encode_lt_of_lt h

theorem bytes_lt_bytes_iff {s t : String} : bytes s < bytes t ↔ s < t := by
  refine ⟨fun h => ?_, bytes_lt_bytes⟩
  rcases Std.lt_trichotomy s t with hst | rfl | hts
  · exact hst
  · exact absurd h (List.lt_irrefl _)
  · exact absurd (bytes_lt_bytes hts) (List.lt_asymm h)

end IncidentBoard.Text
