import IncidentBoard.Proofs.Calendar.Iso
import IncidentBoard.Widget.Reader
import IncidentBoard.Widget.Writer

/-! JSON of windows: a window is read back from what is written for it, to the nanosecond. -/
namespace IncidentBoard.Timeframe

/-- A bound that is missing is null, and any other is a text in ISO form. -/
inductive WrittenBound : Option Timestamp → Json → Prop
  | absent : WrittenBound none .null
  | present {t : Timestamp} {cs : List Char} (h : IsoText t cs) :
      WrittenBound (some t) (.str (String.ofList cs))

variable {w : Timeframe} {start stop : Json}

theorem writtenBound_exactText (bound : Option Timestamp) :
    WrittenBound bound (.ofOption (.str ·.exactText) bound) := by
  cases bound with
  | none => exact .absent
  | some t => exact .present t.isoText_exactChars

theorem readBound_eq_ok {parse : String → Option Timestamp} {bound : Option Timestamp} {j : Json}
    (hparse : ∀ t cs, IsoText t cs → parse (String.ofList cs) = some t) (h : WrittenBound bound j) :
    readBound parse (.ofJson j) = .ok bound := by
  cases h with
  | absent => rfl
  | @present t cs h =>
    rw [Document.ofJson, readBound, hparse t cs h]

/-- Members are read in the order of their names. -/
theorem ofJson_bounds (start stop : Json) :
    ofJson (.ofMembers [("start", start), ("end", stop)]) = do
      let last ← readBound Timestamp.parseEnd? (.ofJson stop)
      let first ← readBound Timestamp.parse? (.ofJson start)
      return ⟨first, last⟩ := by
  have hkeys : "end" < "start" := by decide
  have hmembers : Json.ofMembers [("start", start), ("end", stop)] =
      .obj [("end", stop), ("start", start)] := by
    simp [Json.ofMembers, Keyed.ofList, Keyed.insert, Keyed.empty, Keyed.put, hkeys]
  rw [hmembers, ofJson, Document.ofJson, Document.ofMembers, Document.ofMembers,
    Document.ofMembers, read]
  simp [readMembers]
  rfl

theorem ofJson_eq_ok (hstart : WrittenBound w.start start) (hstop : WrittenBound w.stop stop) :
    ofJson (.ofMembers [("start", start), ("end", stop)]) = .ok w := by
  have hfirst := readBound_eq_ok (fun _ _ h => h.parse?) hstart
  have hlast := readBound_eq_ok (fun _ _ h => h.parseEnd?) hstop
  rw [ofJson_bounds, hlast, hfirst]
  rfl

/-- A window is written as an object of its two bounds, and read back from it. -/
theorem ofJson_toJson (w : Timeframe) :
    (∃ start stop, w.toJson = .ofMembers [("start", start), ("end", stop)] ∧
      WrittenBound w.start start ∧ WrittenBound w.stop stop) ∧
    ofJson w.toJson = .ok w := by
  have hstart := writtenBound_exactText w.start
  have hstop := writtenBound_exactText w.stop
  exact ⟨⟨_, _, rfl, hstart, hstop⟩, ofJson_eq_ok hstart hstop⟩

end IncidentBoard.Timeframe
