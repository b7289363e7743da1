import IncidentBoard.Proofs.Calendar.Iso
import IncidentBoard.Proofs.Text.Utf8
import IncidentBoard.Store.Cell

/-! Timestamps that are bound to a query, and what is read when a store hands them back. -/
namespace IncidentBoard

namespace Timestamp

variable (t : Timestamp)

/-- Without the fraction of the second that a clock shows. A leap second stays one. -/
def withoutFraction : Timestamp where
  date := t.date
  second := t.second
  nano := t.nano / 1000000000 * 1000000000
  second_lt := t.second_lt
  nano_lt := Nat.lt_of_le_of_lt (Nat.div_mul_le_self _ _) t.nano_lt

@[simp] theorem clockSecond_withoutFraction : t.withoutFraction.clockSecond = t.clockSecond := by
  simp only [clockSecond, withoutFraction]
  omega

@[simp] theorem fraction_withoutFraction : t.withoutFraction.fraction = 0 := Nat.mul_mod_left _ _

@[simp] theorem sortKey_withoutFraction : t.withoutFraction.sortKey = t.sortKey := by
  rw [sortKey, clockText, clockSecond_withoutFraction]
  rfl

/-- A sort key says all of a moment without a fraction. -/
theorem exactChars_withoutFraction : t.withoutFraction.exactChars = t.sortKey.toList := by
  have hnothing : t.withoutFraction.fractionText = [] := if_pos t.fraction_withoutFraction
  rw [← sortKey_withoutFraction, sortKey, String.toList_ofList, exactChars, hnothing,
    List.append_nil]

theorem parse?_sortKey : parse? t.sortKey = some t.withoutFraction := by
  have hiso := t.withoutFraction.isoText_exactChars.parse?
  rwa [exactChars_withoutFraction, String.ofList_toList] at hiso

end Timestamp

namespace Store

theorem decode_text (kind : Option ColumnKind) (s : String) :
    (RawCell.text (Text.bytes s)).decode kind =
      .ok (if kind = some .timestamp then (Timestamp.parse? s).elim (.text s) .timestamp
        else .text s) := by
  rw [RawCell.decode, Text.Utf8.decode_bytes]
  dsimp only
  split <;> rfl

/-- A timestamp that was bound comes back to the second in a column of timestamps, and as its text
in any other column. What comes back is bound as the same text again. -/
theorem decode_ofValue_timestamp (t : Timestamp) :
    Timestamp.parse? t.sortKey = some t.withoutFraction ∧
      (∀ kind, (RawCell.ofValue (.timestamp t)).decode kind =
        .ok (if kind = some .timestamp then .timestamp t.withoutFraction else .text t.sortKey)) ∧
      t.withoutFraction.sortKey = t.sortKey := by
  have hparse := t.parse?_sortKey
  refine ⟨hparse, fun kind => ?_, t.sortKey_withoutFraction⟩
  rw [RawCell.ofValue, decode_text, hparse]
  rfl

end Store

end IncidentBoard
