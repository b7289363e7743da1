import IncidentBoard.Proofs.Plan.Rows
import IncidentBoard.Proofs.Plan.Share
import IncidentBoard.Proofs.Widget.Bounds

/-! A window from a bare date to the same date ends as the last second of the day begins. What is
stored in finer steps than seconds is selected up to there. -/
namespace IncidentBoard

open Calendar Text Sql Widget Schema Access Plan

section Time

variable {d : Date} {s t : Timestamp}

theorem Timestamp.le_iff_lt_or_eq : s ≤ t ↔ s < t ∨ s = t := by
  have hle : s ≤ t ↔ s.instant ≤ t.instant := Iff.rfl
  have hlt : s < t ↔ s.instant < t.instant := Iff.rfl
  rw [hle, hlt]
  constructor
  · intro h
    rcases Int.lt_or_eq_of_le h with h | h
    · exact .inl h
    · have hs := s.nano_lt_max
      have ht := t.nano_lt_max
      rw [instant_eq, instant_eq] at h
      exact .inr (ext_seconds (by omega) (by omega))
  · rintro (h | rfl)
    · exact Int.le_of_lt h
    · exact Int.le_refl _

namespace Date

theorem eq_iff_number {d e : Date} : d = e ↔ d.number = e.number := ⟨congrArg number, ext⟩

/-- Of the last second of the day only its beginning is not past it. -/
theorem between_iff :
    d.midnight ≤ t ∧ t ≤ d.lastSecond ↔ t.date = d ∧ (t.second = 86399 → t.nano = 0) := by
  have hsecond := t.second_lt
  have hnano := t.nano_lt_max
  have hle : t ≤ d.lastSecond ↔ t.instant ≤ d.lastSecond.instant := Iff.rfl
  rw [midnight_le, hle, eq_iff_number]
  simp only [Timestamp.instant, lastSecond]
  omega

/-- In whole seconds the day is covered. -/
theorem between_wholeSecond_iff :
    d.midnight ≤ t.wholeSecond ∧ t.wholeSecond ≤ d.lastSecond ↔ t.date = d := by
  have hnano : t.wholeSecond.nano = 0 := rfl
  rw [between_iff, and_iff_left fun _ => hnano, Timestamp.date_wholeSecond]

end Date

end Time

/-- A store that compares timestamps as they are stored, to the last fraction, as PostgreSQL
does. -/
structure Sql.Database.KeepsTime (D : Database) : Prop where
  time : ∀ x, D.time x = x
  atMost_iff : ∀ s t, D.AtMost (.value (.timestamp s)) (.value (.timestamp t)) ↔ s ≤ t

namespace Plan

/-- The conditions of a plan, behind those of the filters of its definition, are true of the rows
whose time `accepts`. -/
def SelectsByTime (definition : Definition) (time : Column) (accepts : Timestamp → Prop)
    (p : QueryPlan) : Prop :=
  ∃ filters lower upper rest, p.predicates = filters ++ lower :: upper :: rest ∧
    filters.length = definition.filters.length ∧
    ∀ D : Database, D.KeepsTime →
    ∀ (row : Row) (t : Timestamp), cellOf time row = .value (.timestamp t) →
      (D.truth (lower.eval D p.params.read row) = some true ∧
        D.truth (upper.eval D p.params.read row) = some true ↔
        accepts t)

variable {definition : Definition} {maxLimit : Nat} {p : QueryPlan} {start stop : Timestamp}
  {d : Date} {raw : String}

/-- A plan with both bounds selects what lies between them, whatever scopes it is restricted to. -/
theorem selectsByTime_of_compile (h : compile definition ⟨some start, some stop⟩ maxLimit = .ok p)
    (scopes : List Scope) : ∃ time, timeColumnOf definition.options = .ok time ∧
      SelectsByTime definition time (fun t => start ≤ t ∧ t ≤ stop) (restrict scopes p) := by
  obtain ⟨d, hc⟩ := compiled_of_compile h
  obtain ⟨⟨added, hadded⟩, hparams⟩ := restrict_extends scopes p
  have hdraft : p.predicates = d.predicates ∧ p.params = d.params := by
    rw [hc.finish]
    exact ⟨rfl, rfl⟩
  rw [hdraft.2] at hparams
  obtain ⟨filters, first, last, hpredicates, hfilters, hfirst, hlast⟩ :=
    (meant_of_build hc.build hparams).conditions
  obtain ⟨lower, _, hlower, hnoMore, rfl⟩ := List.forall₂_cons_left_iff.1 hfirst
  obtain ⟨upper, _, hupper, hnoMore', rfl⟩ := List.forall₂_cons_left_iff.1 hlast
  cases hnoMore
  cases hnoMore'
  refine ⟨d.timeColumn, hc.time, filters, lower, upper, added, ?_, hfilters.length_eq.symm, ?_⟩
  · rw [← hadded, hdraft.1, hpredicates]
    simp
  · intro D hD row t hcell
    rw [hlower D hD.time row, hupper D hD.time row, hcell]
    simp [Database.Relates, hD.atMost_iff]

/-- What a bare date means as both bounds of a window. -/
structure DayWindow (raw : String) (d : Date) (start stop : Timestamp) : Prop where
  parse_eq : Timestamp.parse? raw = some start
  parseEnd_eq : Timestamp.parseEnd? raw = some stop
  ofJson_eq : Timeframe.ofJson (.ofMembers [("start", .str raw), ("end", .str raw)]) =
    .ok ⟨some start, some stop⟩
  between_iff : ∀ t, start ≤ t ∧ t ≤ stop ↔ t.date = d ∧ (t.second = 86399 → t.nano = 0)
  /-- A store that cuts timestamps to whole seconds finds all of the day between the bounds. -/
  wholeSecond_iff : ∀ t : Timestamp, start ≤ t.wholeSecond ∧ t.wholeSecond ≤ stop ↔ t.date = d
  selects : ∀ definition maxLimit p, compile definition ⟨some start, some stop⟩ maxLimit = .ok p →
    ∀ scopes, ∃ time, timeColumnOf definition.options = .ok time ∧
      SelectsByTime definition time (fun t => t.date = d ∧ (t.second = 86399 → t.nano = 0))
        (restrict scopes p)

/-- A bare date as both bounds selects the moments of its day up to the beginning of the last
second. -/
theorem dayWindow_of_bareDate (h : BareDate d (trim raw.toList)) :
    ∃ start stop, DayWindow raw d start stop := by
  have hstart := Timestamp.parse?_of_bareDate h
  have hstop := Timestamp.parseEnd?_of_bareDate h
  refine ⟨d.midnight, d.lastSecond, hstart, hstop, Timeframe.ofJson_texts hstart hstop, fun t =>
    Date.between_iff, fun t => Date.between_wholeSecond_iff, ?_⟩
  intro definition maxLimit p hp scopes
  obtain ⟨time, htime, hselects⟩ := selectsByTime_of_compile hp scopes
  simp only [Date.between_iff] at hselects
  exact ⟨time, htime, hselects⟩

/-- A store that only keeps timestamps. -/
def timeStore : Database :=
  { bareStore with
    time := id
    before := fun a b => match a, b with
      | .value (.timestamp s), .value (.timestamp t) => decide (s < t)
      | _, _ => false }

theorem keepsTime_timeStore : timeStore.KeepsTime where
  time _ := rfl
  atMost_iff s t := by
    rw [Timestamp.le_iff_lt_or_eq]
    simp [Database.AtMost, timeStore]

/-- 4 January 2024. -/
def thursday : Date := ⟨738888, by decide, by decide⟩

/-- Half a second before the day is over. -/
def beforeMidnight : Timestamp :=
  { thursday.lastSecond with nano := 500000000, nano_lt := by decide }

theorem bareDate_thursday : BareDate thursday (trim "2024-01-04".toList) :=
  readDate_eq_some.1 (by decide +kernel)

/-- Alerts of the day are selected as its last second begins, and no more half a second later. -/
theorem dayWindow_of_bareDate_thursday :
    ∃ start stop p, Timestamp.parse? "2024-01-04" = some start ∧
    Timestamp.parseEnd? "2024-01-04" = some stop ∧
      compile severeShare ⟨some start, some stop⟩ 10000 = .ok p ∧
    ∃ lower ∈ p.predicates, ∃ upper ∈ p.predicates, ∀ row : Row,
      (row (some "alerts") "alert_creation_time" = .value (.timestamp thursday.lastSecond) →
        timeStore.truth (lower.eval timeStore p.params.read row) = some true ∧
        timeStore.truth (upper.eval timeStore p.params.read row) = some true) ∧
      (row (some "alerts") "alert_creation_time" = .value (.timestamp beforeMidnight) →
        ¬(timeStore.truth (lower.eval timeStore p.params.read row) = some true ∧
          timeStore.truth (upper.eval timeStore p.params.read row) = some true)) := by
  obtain ⟨start, stop, hday⟩ := dayWindow_of_bareDate bareDate_thursday
  obtain rfl :=
    Option.some.inj ((Timestamp.parse?_of_bareDate bareDate_thursday).symm.trans hday.parse_eq)
  obtain rfl :=
    Option.some.inj ((Timestamp.parseEnd?_of_bareDate bareDate_thursday).symm.trans
      hday.parseEnd_eq)
  have hcompiles : (compile severeShare ⟨some thursday.midnight, some thursday.lastSecond⟩
      10000).map (·.predicates.length) = .ok 3 := by rfl
  obtain ⟨p, hp, -⟩ := ok_of_map hcompiles
  obtain ⟨time, htime, filters, lower, upper, rest, hpredicates, -, hselects⟩ :=
    hday.selects _ _ p hp []
  cases htime
  have hpredicates : p.predicates = filters ++ lower :: upper :: rest := hpredicates
  refine ⟨_, _, p, hday.parse_eq, hday.parseEnd_eq, hp, lower, by simp [hpredicates], upper,
    by simp [hpredicates], fun row => ⟨fun hcell => ?_, fun hcell => ?_⟩⟩
  · exact (hselects timeStore keepsTime_timeStore row _ hcell).2 (by decide)
  · rw [show restrict [] p = p from rfl] at hselects
    rw [hselects timeStore keepsTime_timeStore row _ hcell]
    decide

/-- A moment of the day, and in no leap second, that is past the end of the window. -/
theorem exists_past_end : ∃ start stop, Timestamp.parse? "2024-01-04" = some start ∧
    Timestamp.parseEnd? "2024-01-04" = some stop ∧ BareDate thursday (trim "2024-01-04".toList) ∧
    beforeMidnight.nano < 1000000000 ∧
    ¬(beforeMidnight.date = thursday ↔ start ≤ beforeMidnight ∧ beforeMidnight ≤ stop) :=
  ⟨thursday.midnight, thursday.lastSecond, Timestamp.parse?_of_bareDate bareDate_thursday,
    Timestamp.parseEnd?_of_bareDate bareDate_thursday, bareDate_thursday, by decide, by decide⟩

end Plan

end IncidentBoard
