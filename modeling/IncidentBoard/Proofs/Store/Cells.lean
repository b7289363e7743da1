import IncidentBoard.Proofs.Calendar.Moments
import IncidentBoard.Proofs.Decimal.Numerals
import IncidentBoard.Proofs.Text.Utf8
import IncidentBoard.Store.Cell

/-! What the cells of a store become in a result, and the numbers that cells hold. -/
namespace IncidentBoard.Store

/-- What becomes of a cell. In a column of timestamps an integer is the second of the epoch that it
counts, if the calendar has that second, and a text is the moment that it is of, if it is of one. -/
inductive Decodes (kind : Option ColumnKind) : RawCell → Cell → Prop
  | null : Decodes kind .null .null
  | real (x : Float) : Decodes kind (.real x) (.float x)
  | int {n : Int} (hkind : kind ≠ some .timestamp) : Decodes kind (.int n) (.int n)
  | second {n : Int} {t : Timestamp} (hkind : kind = some .timestamp)
      (hseconds : t.epochSeconds = n)
      (hnano : t.nano = 0) : Decodes kind (.int n) (.timestamp t)
  | noSecond {n : Int} (hkind : kind = some .timestamp) (h : ∀ t : Timestamp, t.epochSeconds ≠ n) :
      Decodes kind (.int n) (.int n)
  | text {bytes : List UInt8} {s : String} (hkind : kind ≠ some .timestamp)
      (hbytes : Text.bytes s = bytes) : Decodes kind (.text bytes) (.text s)
  | moment {bytes : List UInt8} {s : String} {t : Timestamp} (hkind : kind = some .timestamp)
      (hbytes : Text.bytes s = bytes) (h : t.MomentText (Text.trim s.toList)) :
      Decodes kind (.text bytes) (.timestamp t)
  | noMoment {bytes : List UInt8} {s : String} (hkind : kind = some .timestamp)
      (hbytes : Text.bytes s = bytes) (h : ∀ t : Timestamp, ¬ t.MomentText (Text.trim s.toList)) :
      Decodes kind (.text bytes) (.text s)

/-- Why nothing becomes of a cell: it is binary, or stops being a text. -/
inductive Faults : RawCell → CellFault → Prop
  | blob (bytes : List UInt8) : Faults (.blob bytes) .blob
  | badText {bytes : List UInt8} {fault : Text.Utf8.Fault}
      (h : Text.Utf8.StopsAt (bytes.map UInt8.toNat) fault) : Faults (.text bytes) (.badText fault)

section Decoding

variable {kind : Option ColumnKind} {c : RawCell} {cell : Cell} {fault : CellFault}

theorem decode_int_eq_ok {n : Int} :
    (RawCell.int n).decode kind = .ok cell ↔ Decodes kind (.int n) cell := by
  by_cases hkind : kind = some .timestamp
  · rw [RawCell.decode, if_pos hkind]
    constructor
    · intro h
      cases hsecond : Timestamp.ofEpochSeconds? n with
      | some t =>
        rw [hsecond] at h
        cases h
        obtain ⟨hseconds, hnano⟩ := Timestamp.ofEpochSeconds?_eq_some.1 hsecond
        exact .second hkind hseconds hnano
      | none =>
        rw [hsecond] at h
        cases h
        exact .noSecond hkind (Timestamp.ofEpochSeconds?_eq_none.1 hsecond)
    · intro h
      cases h with
      | int hnot => exact absurd hkind hnot
      | second _ hseconds hnano =>
        rw [Timestamp.ofEpochSeconds?_eq_some.2 ⟨hseconds, hnano⟩]
        rfl
      | noSecond _ hno =>
        rw [Timestamp.ofEpochSeconds?_eq_none.2 hno]
        rfl
  · rw [RawCell.decode, if_neg hkind]
    constructor
    · intro h
      cases h
      exact .int hkind
    · intro h
      cases h with
      | int => rfl
      | second hpos | noSecond hpos => exact absurd hpos hkind

theorem decode_text_eq_ok {bytes : List UInt8} :
    (RawCell.text bytes).decode kind = .ok cell ↔ Decodes kind (.text bytes) cell := by
  rcases Text.Utf8.exists_decode bytes with ⟨s, rfl⟩ | ⟨fault, hstops⟩
  · have hsame {s' : String} (h : Text.bytes s' = Text.bytes s) : s' = s := by
      rw [← Text.Utf8.decode_eq_ok, Text.Utf8.decode_bytes] at h
      cases h
      rfl
    rw [RawCell.decode, Text.Utf8.decode_bytes]
    dsimp only
    by_cases hkind : kind = some .timestamp
    · rw [if_pos hkind]
      constructor
      · intro h
        cases hmoment : Timestamp.parse? s with
        | some t =>
          rw [hmoment] at h
          cases h
          exact .moment hkind rfl (Timestamp.parse?_eq_some.1 hmoment)
        | none =>
          rw [hmoment] at h
          cases h
          exact .noMoment hkind rfl (Timestamp.parse?_eq_none.1 hmoment)
      · intro h
        cases h with
        | text hnot => exact absurd hkind hnot
        | moment _ hbytes ht =>
          obtain rfl := hsame hbytes
          rw [Timestamp.parse?_eq_some.2 ht]
          rfl
        | noMoment _ hbytes hno =>
          obtain rfl := hsame hbytes
          rw [Timestamp.parse?_eq_none.2 hno]
          rfl
    · rw [if_neg hkind]
      constructor
      · intro h
        cases h
        exact .text hkind rfl
      · intro h
        cases h with
        | text _ hbytes => rw [hsame hbytes]
        | moment hpos | noMoment hpos => exact absurd hpos hkind
  · have hno (s : String) : Text.bytes s ≠ bytes := by
      intro h
      rw [← Text.Utf8.decode_eq_ok, Text.Utf8.decode_eq_error.2 hstops] at h
      cases h
    rw [RawCell.decode, Text.Utf8.decode_eq_error.2 hstops]
    refine ⟨nofun, fun h => ?_⟩
    cases h with
    | text _ hbytes | moment _ hbytes | noMoment _ hbytes => exact absurd hbytes (hno _)

theorem decode_eq_ok : c.decode kind = .ok cell ↔ Decodes kind c cell := by
  cases c with
  | int n => exact decode_int_eq_ok
  | text bytes => exact decode_text_eq_ok
  | null =>
    refine ⟨fun h => ?_, fun h => ?_⟩ <;> cases h
    · exact .null
    · rfl
  | real x =>
    refine ⟨fun h => ?_, fun h => ?_⟩ <;> cases h
    · exact .real x
    · rfl
  | blob bytes => exact ⟨nofun, nofun⟩

theorem decode_eq_error : c.decode kind = .error fault ↔ Faults c fault := by
  cases c with
  | null | real x => exact ⟨nofun, nofun⟩
  | int n =>
    refine ⟨fun h => ?_, nofun⟩
    rw [RawCell.decode] at h
    split at h <;> cases h
  | text bytes =>
    rw [RawCell.decode]
    cases hread : Text.Utf8.decode bytes with
    | ok s =>
      refine ⟨fun h => ?_, fun h => ?_⟩
      · dsimp only at h
        split at h <;> cases h
      · cases h with
        | badText hstops =>
          rw [Text.Utf8.decode_eq_error.2 hstops] at hread
          cases hread
    | error e =>
      refine ⟨fun h => ?_, fun h => ?_⟩
      · cases h
        exact .badText (Text.Utf8.decode_eq_error.1 hread)
      · cases h with
        | badText hstops =>
          rw [Text.Utf8.decode_eq_error.2 hstops] at hread
          cases hread
          rfl
  | blob bytes =>
    refine ⟨fun h => ?_, fun h => ?_⟩ <;> cases h
    · exact .blob bytes
    · rfl

theorem Decodes.unique {cell' : Cell} (h : Decodes kind c cell) (h' : Decodes kind c cell') :
    cell = cell' := by
  rw [← decode_eq_ok] at h h'
  exact Except.ok.inj (h.symm.trans h')

theorem Faults.unique {fault' : CellFault} (h : Faults c fault) (h' : Faults c fault') :
    fault = fault' := by
  have hread : c.decode none = .error fault := decode_eq_error.2 h
  have hread' : c.decode none = .error fault' := decode_eq_error.2 h'
  exact Except.error.inj (hread.symm.trans hread')

theorem Faults.not_decodes (h : Faults c fault) : ¬ Decodes kind c cell := by
  have hread : c.decode kind = .error fault := decode_eq_error.2 h
  rw [← decode_eq_ok, hread]
  nofun

theorem exists_decodes_or_faults (kind : Option ColumnKind) (c : RawCell) :
    (∃ cell, Decodes kind c cell) ∨ ∃ fault, Faults c fault := by
  cases h : c.decode kind with
  | ok cell => exact .inl ⟨cell, decode_eq_ok.1 h⟩
  | error fault => exact .inr ⟨fault, decode_eq_error.1 h⟩

end Decoding

/-- The finite number that a cell holds. A text holds one if it is a decimal number that is near to
a finite double, white space around it apart. -/
inductive Cell.Holds : Cell → Float → Prop
  | int (n : Int) : Holds (.int n) (Float.ofInt n)
  | float {x : Float} (hfinite : x.isFinite) : Holds (.float x) x
  | text {s : String} {negative : Bool} {d : Decimal.Digits}
      (h : Decimal.DecimalText negative d (Text.trim s.toList))
      (hfinite : (Decimal.toFloat d.digits d.exponent).isFinite) : Holds (.text s)
        (if negative then -Decimal.toFloat d.digits d.exponent
        else Decimal.toFloat d.digits d.exponent)

theorem Cell.number?_eq_some {cell : Cell} {x : Float} : cell.number? = some x ↔ cell.Holds x := by
  cases cell with
  | null | timestamp t => exact ⟨nofun, nofun⟩
  | int n =>
    refine ⟨fun h => ?_, fun h => ?_⟩ <;> cases h
    · exact .int n
    · rfl
  | float y =>
    rw [number?]
    constructor
    · intro h
      split at h
      · next hfinite =>
        cases h
        exact .float hfinite
      · cases h
    · intro h
      cases h with
      | float hfinite => exact if_pos hfinite
  | text s =>
    rw [number?, Decimal.readFloat?_eq_some]
    constructor
    · rintro ⟨negative, d, h, hfinite, rfl⟩
      exact .text h hfinite
    · intro h
      cases h with
      | text h hfinite => exact ⟨_, _, h, hfinite, rfl⟩

end IncidentBoard.Store
