import IncidentBoard.Payload.Series
import IncidentBoard.Proofs.Lists
import IncidentBoard.Proofs.Payload.Axis
import IncidentBoard.Proofs.Store.Cells

/-! What is added up for each point: the numbers of the rows that fall on it. -/
namespace IncidentBoard.Payload

open Store

/-- A row holds a number under a label. -/
def HoldsAt (label : String) (row : Row) (x : Float) : Prop :=
  ∃ cell, row.get? label = some cell ∧ cell.Holds x

/-- The numbers in a column of some rows, in their order. -/
def numbers (label : String) (rows : List Row) : List Float :=
  rows.filterMap fun row => number? (row.get? label)

/-- Added up from left to right, starting from zero. -/
def addUp (xs : List Float) : Float := xs.foldl (· + ·) 0

theorem numbers_eq_nil {label : String} {rows : List Row} :
    numbers label rows = [] ↔ ∀ row ∈ rows, number? (row.get? label) = none :=
  List.filterMap_eq_nil_iff

section Numbers

variable {label : String} {row : Row} {rows : List Row}

theorem number?_get?_eq_some {x : Float} :
    number? (row.get? label) = some x ↔ HoldsAt label row x := by
  simp only [number?, Option.bind_eq_some_iff, Cell.number?_eq_some, HoldsAt]

theorem number?_get?_eq_none :
    number? (row.get? label) = none ↔ ∀ x, ¬ HoldsAt label row x := by
  simp only [Option.eq_none_iff_forall_ne_some, ne_eq, number?_get?_eq_some]

theorem picks_numbers {xs : List Float} :
    Picks (HoldsAt label) rows xs ↔ numbers label rows = xs :=
  picks_iff fun _ _ => number?_get?_eq_some

end Numbers

/-- The tally of some numbers. -/
def Tally.of (xs : List Float) : Tally := ⟨addUp xs, !xs.isEmpty⟩

/-- A tally with the cells of a column added. -/
def Tally.addRows (label : String) (t : Tally) (rows : List Row) : Tally :=
  rows.foldl (fun t row => t.add (number? (row.get? label))) t

section Tally

variable {label : String}

theorem Tally.addRows_eq (t : Tally) (rows : List Row) :
    t.addRows label rows =
      ⟨(numbers label rows).foldl (· + ·) t.sum, t.observed || !(numbers label rows).isEmpty⟩ := by
  induction rows generalizing t with
  | nil => simp [addRows, numbers]
  | cons row rows ih =>
    rw [addRows, List.foldl_cons, ← addRows, ih, numbers, numbers, List.filterMap_cons]
    cases number? (row.get? label) <;> simp [add]

/-- The tally of a list of rows holds their numbers. -/
theorem Tally.addRows_empty (rows : List Row) :
    ({} : Tally).addRows label rows = .of (numbers label rows) := by
  rw [addRows_eq, Bool.false_or]
  rfl

theorem foldl_total_some (xs : List Float) (x : Float) :
    xs.foldl (fun acc y => some (acc.getD 0 + y)) (some x) = some (xs.foldl (· + ·) x) := by
  induction xs generalizing x with
  | nil => rfl
  | cons y ys ih => exact ih (x + y)

/-- Nothing has no total; everything else is added up. -/
theorem total_eq (xs : List Float) : total xs = if xs.isEmpty then none else some (addUp xs) := by
  cases xs with
  | nil => rfl
  | cons x xs => exact foldl_total_some xs (0 + x)

theorem total_eq_none {xs : List Float} : total xs = none ↔ xs = [] := by
  rw [total_eq]
  cases xs <;> simp

theorem total_eq_some {xs : List Float} {t : Float} (h : total xs = some t) : t = addUp xs := by
  rw [total_eq] at h
  cases xs with
  | nil => cases h
  | cons x xs => exact (Option.some.inj h).symm

end Tally

section Rows

variable {value v s p series point : Nat} {row : Row} {labels : List String} {label : String}
  {tallies : Tallies}

theorem getD_tallyRow_of_lt (h : v < value) :
    (tallyRow series point row value labels tallies).getD (v, s, p) {} =
      tallies.getD (v, s, p) {} := by
  induction labels generalizing value tallies with
  | nil => rfl
  | cons label labels ih =>
    rw [tallyRow, ih (Nat.lt_succ_of_lt h), Std.HashMap.getD_insert, if_neg]
    simp only [beq_iff_eq, Prod.mk.injEq]
    omega

/-- A row adds each of its cells to the tally of its own series and point. -/
theorem getD_tallyRow (h : labels[v]? = some label) :
    (tallyRow series point row value labels tallies).getD (value + v, s, p) {} =
      if series = s ∧ point = p then
        (tallies.getD (value + v, s, p) {}).add (number? (row.get? label))
      else tallies.getD (value + v, s, p) {} := by
  induction labels generalizing value v tallies with
  | nil => simp at h
  | cons first labels ih =>
    cases v with
    | zero =>
      obtain rfl : first = label := Option.some.inj h
      -- The columns after this one have numbers of their own.
      rw [Nat.add_zero, tallyRow, getD_tallyRow_of_lt (Nat.lt_succ_self value),
        Std.HashMap.getD_insert]
      by_cases hsp : series = s ∧ point = p
      · obtain ⟨rfl, rfl⟩ := hsp
        simp
      · rw [if_neg hsp, if_neg (by simpa using hsp)]
    | succ v =>
      have hne : ¬ ((value, series, point) == (value + (v + 1), s, p)) = true := by
        simp only [beq_iff_eq, Prod.mk.injEq]
        omega
      rw [tallyRow, show value + (v + 1) = value + 1 + v by omega, ih h]
      rw [Std.HashMap.getD_insert, show value + 1 + v = value + (v + 1) by omega, if_neg hne]

/-- A tally is made of the rows of its series whose key has its point. -/
theorem getD_tallyRows {points : Axis} (rows : List Row) (place : Row → String × Nat)
    (h : labels[v]? = some label) :
    (tallyRows points labels (rows.map fun row => (row, place row)) tallies).getD (v, s, p) {} =
      (tallies.getD (v, s, p) {}).addRows label
        (rows.filter fun row => points.position? (place row).1 = some p ∧ (place row).2 = s) := by
  induction rows generalizing tallies with
  | nil => rfl
  | cons row rows ih =>
    rw [List.map_cons, tallyRows, ih, List.filter_cons]
    cases hposition : points.position? (place row).1 with
    | none => simp
    | some point =>
      have hrow : (tallyRow (place row).2 point row 0 labels tallies).getD (0 + v, s, p) {} = _ :=
        getD_tallyRow h
      rw [Nat.zero_add] at hrow
      dsimp only
      rw [hrow]
      by_cases hplace : (place row).2 = s ∧ point = p
      · rw [if_pos hplace, if_pos (by simpa [and_comm] using hplace)]
        rfl
      · rw [if_neg hplace, if_neg (by simpa [and_comm] using hplace)]

end Rows

/-- Both axes hold the values of all rows, and each row is placed by its keys. -/
theorem placeRows_eq (point : Row → GroupValue) (secondary : List String) (rows : List Row)
    (points series : Axis) (hseries : series.Consistent) :
    placeRows point secondary rows points series =
      ⟨points.insertAll (rows.map point), series.insertAll (rows.map (combined · secondary)),
        rows.map fun row => ((point row).key,
          ((series.insertAll (rows.map (combined · secondary))).position?
            (combined row secondary).key).getD 0)⟩ := by
  induction rows generalizing points series with
  | nil => rfl
  | cons row rows ih =>
    obtain ⟨hnext, hposition⟩ := hseries.insert (combined row secondary)
    -- The position that the row was given is still its key's when all rows are placed.
    have hkept := Axis.position?_insertAll_of_some (rows.map (combined · secondary)) hposition
    rw [placeRows]
    dsimp only
    rw [ih _ _ hnext]
    simp only [List.map_cons, Axis.insertAll_cons, hkept, Option.getD_some]

end IncidentBoard.Payload
