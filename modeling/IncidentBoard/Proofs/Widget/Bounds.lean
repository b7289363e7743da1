import IncidentBoard.Command.Report
import IncidentBoard.Proofs.Calendar.BareDate
import IncidentBoard.Proofs.Widget.Window

/-! Both ends of a window are read from the same texts, and a text is never read as a later start
than end. -/
namespace IncidentBoard

open Calendar Text

namespace Date

variable {d : Date}

theorem midnight_le_lastSecond (d : Date) : d.midnight ≤ d.lastSecond :=
  midnight_le.2 (Int.le_refl _)

end Date

theorem Timeframe.ofJson_texts {raw raw' : String} {start stop : Timestamp}
    (hstart : Timestamp.parse? raw = some start) (hstop : Timestamp.parseEnd? raw' = some stop) :
    ofJson (.ofMembers [("start", .str raw), ("end", .str raw')]) =
      .ok ⟨some start, some stop⟩ := by
  rw [ofJson_bounds, Document.ofJson, Document.ofJson, readBound, readBound, hstart, hstop]
  rfl

/-- How a text is read as the start and as the end of a window. -/
structure ReadAsBounds (raw : String) : Prop where
  isSome_eq : (Timestamp.parseEnd? raw).isSome = (Timestamp.parse? raw).isSome
  bareDate : ∀ d, BareDate d (trim raw.toList) →
    Timestamp.parse? raw = some d.midnight ∧ Timestamp.parseEnd? raw = some d.lastSecond
  otherwise : (¬∃ d, BareDate d (trim raw.toList)) → Timestamp.parseEnd? raw = Timestamp.parse? raw
  /-- A window with this text for both bounds, in JSON or as arguments. -/
  window : ∀ start, Timestamp.parse? raw = some start → ∃ stop, start ≤ stop ∧
    Timeframe.ofJson (.ofMembers [("start", .str raw), ("end", .str raw)]) =
    .ok ⟨some start, some stop⟩ ∧
    Command.Window.timeframe ⟨some raw, some raw⟩ = .ok ⟨some start, some stop⟩ ∧
    Timeframe.validate ⟨some start, some stop⟩ = .ok ()
  noWindow : Timestamp.parse? raw = none →
    Timeframe.ofJson (.ofMembers [("start", .str raw), ("end", .str raw)]) =
      .error (.notATimestamp raw) ∧
    Command.Window.timeframe ⟨some raw, some raw⟩ =
      .error (.failure ("Error: --start is not a timestamp: " ++ raw))

variable {raw : String} {start : Timestamp}

/-- The end is the start, unless the text is a bare date. -/
theorem exists_parseEnd? (h : Timestamp.parse? raw = some start) :
    ∃ stop, Timestamp.parseEnd? raw = some stop ∧ start ≤ stop := by
  by_cases hdate : ∃ d, BareDate d (trim raw.toList)
  · obtain ⟨d, hd⟩ := hdate
    obtain rfl := Option.some.inj ((Timestamp.parse?_of_bareDate hd).symm.trans h)
    exact ⟨d.lastSecond, Timestamp.parseEnd?_of_bareDate hd, d.midnight_le_lastSecond⟩
  · exact ⟨start, (Timestamp.parseEnd?_of_not_bareDate hdate).trans h, Timestamp.le_refl start⟩

theorem parseEnd?_eq_none (h : Timestamp.parse? raw = none) : Timestamp.parseEnd? raw = none := by
  have hdate : ¬∃ d, BareDate d (trim raw.toList) := by
    rintro ⟨d, hd⟩
    rw [Timestamp.parse?_of_bareDate hd] at h
    cases h
  rw [Timestamp.parseEnd?_of_not_bareDate hdate, h]

theorem readAsBounds (raw : String) : ReadAsBounds raw := by
  constructor
  case isSome_eq =>
    cases h : Timestamp.parse? raw with
    | none => rw [parseEnd?_eq_none h]
    | some start =>
      obtain ⟨stop, hstop, -⟩ := exists_parseEnd? h
      rw [hstop]
      rfl
  case bareDate => exact fun d hd =>
    ⟨Timestamp.parse?_of_bareDate hd, Timestamp.parseEnd?_of_bareDate hd⟩
  case otherwise => exact Timestamp.parseEnd?_of_not_bareDate
  case window =>
    intro start hstart
    obtain ⟨stop, hstop, hle⟩ := exists_parseEnd? hstart
    refine ⟨stop, hle, Timeframe.ofJson_texts hstart hstop, ?_, if_neg (Timestamp.not_lt.2 hle)⟩
    rw [Command.Window.timeframe, Command.bound, Command.bound, hstart, hstop]
    rfl
  case noWindow =>
    intro hnone
    refine ⟨?_, ?_⟩
    · rw [Timeframe.ofJson_bounds, Document.ofJson, Timeframe.readBound, parseEnd?_eq_none hnone]
      rfl
    · rw [Command.Window.timeframe, Command.bound, hnone]
      rfl

/-- A leap day in the least of digits, with a blank behind it. -/
theorem readAsBounds_leapDay : ∃ d : Date, d.year = 2024 ∧ d.month = 2 ∧ d.day = 29 ∧
    Timestamp.parse? "2024-2-29 " = some d.midnight ∧
      Timestamp.parseEnd? "2024-2-29 " = some d.lastSecond ∧
    Timeframe.validate ⟨some d.midnight, some d.lastSecond⟩ = .ok () := by
  have hread : ∃ d, readDate (trim "2024-2-29 ".toList) = some d ∧ d.year = 2024 ∧ d.month = 2 ∧
      d.day = 29 :=
    ⟨⟨738944, by decide, by decide⟩, by decide +kernel, by decide, by decide, by decide⟩
  obtain ⟨d, hd, hfields⟩ := hread
  obtain ⟨hstart, hstop⟩ := (readAsBounds "2024-2-29 ").bareDate d (readDate_eq_some.1 hd)
  obtain ⟨stop, -, hjson, -, hvalid⟩ := (readAsBounds "2024-2-29 ").window d.midnight hstart
  obtain rfl : stop = d.lastSecond := by
    rw [Timeframe.ofJson_texts hstart hstop] at hjson
    cases hjson
    rfl
  exact ⟨d, hfields.1, hfields.2.1, hfields.2.2, hstart, hstop, hvalid⟩

end IncidentBoard
