import IncidentBoard.Plan.Predicate
import IncidentBoard.Proofs.Sql.Aggregation
import Mathlib.Tactic.Linarith
import Mathlib.Tactic.Positivity

/-! The share of rows that meet a condition, in percent. -/
namespace IncidentBoard.Plan

open Sql

section Share

variable (D : Database) (read : Nat → Datum) (rows : List Row)

/-- How many rows meet a condition. -/
def hits (condition : Expr) : Nat :=
  rows.countP fun row => D.truth (condition.eval D read row) = some true

/-- How many rows have a value in a column. -/
def cells (column : Expr) : Nat := rows.countP fun row => column.eval D read row ≠ .null

variable {D read rows} {column condition : Expr}

theorem hits_of_isEmpty (h : rows.isEmpty) : hits D read rows condition = 0 := by
  rw [List.isEmpty_iff.1 h]
  rfl

theorem hits_le_cells
    (h : ∀ row ∈ rows, D.truth (condition.eval D read row) = some true →
      column.eval D read row ≠ .null) :
    hits D read rows condition ≤ cells D read rows column :=
  List.countP_mono_left (by simpa using h)

theorem amount_hits :
    (Expr.apply "SUM" [.ifThen condition (.int 1) (.int 0)]).amount D read rows =
      .ok (if rows.isEmpty then none else some (.whole (hits D read rows condition))) := by
  rw [hits, ← Datum.sum_of_bool, Expr.amount_sum]
  refine congrArg Datum.sum (List.map_congr_left fun row _ => ?_)
  have hone : (Expr.int 1).eval D read row = .value (.int 1) := rfl
  have hzero : (Expr.int 0).eval D read row = .value (.int 0) := rfl
  rw [Expr.eval_ifThen, hone, hzero]
  split <;> simp_all

theorem amount_hundredfold :
    (Expr.binary .times (.literal (.float 100.0))
      (.apply "SUM" [.ifThen condition (.int 1) (.int 0)])).amount D read rows =
      .ok (if rows.isEmpty then none else some (.real (100 * hits D read rows condition))) := by
  rw [Expr.amount_times (Expr.amount_float Number.ofFloat?_hundred) amount_hits]
  split <;> simp [Amount.both, Number.times, Number.toRat]

theorem amount_total :
    (Expr.apply "NULLIF" [.apply "COUNT" [column], .int 0]).amount D read rows =
      .ok (if cells D read rows column = 0 then none
        else some (.whole (cells D read rows column))) := by
  have hcount : Datum.count (rows.map (column.eval D read)) = cells D read rows column :=
    List.countP_map
  rw [Expr.amount_nullIf Expr.amount_count (Expr.amount_int 0), hcount]
  simp [Amount.nullIf, Number.toRat]

/-- What the share is before zero takes the place of null. -/
theorem amount_quotient :
    (Expr.binary .divide
      (.binary .times (.literal (.float 100.0))
        (.apply "SUM" [.ifThen condition (.int 1) (.int 0)]))
      (.apply "NULLIF" [.apply "COUNT" [column], .int 0])).amount D read rows =
      .ok (if rows.isEmpty ∨ cells D read rows column = 0 then none
        else some (.real (100 * hits D read rows condition / cells D read rows column))) := by
  rw [Expr.amount_divide amount_hundredfold amount_total]
  by_cases hrows : rows.isEmpty
  · simp [hrows, Amount.both]
  by_cases hcells : cells D read rows column = 0
  · simp [hcells, Amount.both]
  · have hne : (Number.whole (cells D read rows column)).toRat ≠ 0 := by
      simpa [Number.toRat] using hcells
    have hcase : ¬ (rows.isEmpty ∨ cells D read rows column = 0) := not_or.2 ⟨hrows, hcells⟩
    rw [if_neg hrows, if_neg hcells, if_neg hcase, Amount.both, Number.divide_of_real hne]
    rfl

variable (D read rows column condition) in
theorem amount_share :
    ∃ e v, aggregate? .ratio column (some condition) = some e ∧
      e.amount D read rows = .ok (some v) ∧
      v.toRat = 100 * hits D read rows condition / cells D read rows column := by
  refine ⟨_, if rows.isEmpty ∨ cells D read rows column = 0 then .whole 0
      else .real (100 * hits D read rows condition / cells D read rows column), rfl, ?_, ?_⟩
  · rw [Expr.amount_coalesce amount_quotient (Expr.amount_int 0)]
    split <;> rfl
  · split
    · next hnone =>
      rcases hnone with hrows | hcells
      · simp [Number.toRat, hits_of_isEmpty hrows]
      · simp [Number.toRat, hcells]
    · rfl

/-- Of two counts one makes up more than a hundred percent of the other only if it is the larger. -/
theorem percent_le_iff {m n : Nat} : (100 * m / n : Rat) ≤ 100 ↔ n = 0 ∨ m ≤ n := by
  rcases Nat.eq_zero_or_pos n with rfl | hn
  · simp
  · have hpos : (0 : Rat) < n := by exact_mod_cast hn
    rw [div_le_iff₀ hpos, mul_le_mul_iff_right₀ (by norm_num), Nat.cast_le]
    omega

end Share

/-- The share of the rows that meet a condition in those with a value in a column is a number
whatever the rows are. It stays within a hundred percent as long as the rows that are shared out are
no more than those they are counted against. -/
theorem share_of_aggregate (D : Database) (read : Nat → Datum) (rows : List Row)
    (column condition : Expr) :
    ∃ e v, aggregate? .ratio column (some condition) = some e ∧
      e.amount D read rows = .ok (some v) ∧
      v.toRat = 100 * hits D read rows condition / cells D read rows column ∧
      (hits D read rows condition = 0 ∨ cells D read rows column = 0 → v.toRat = 0) ∧
      0 ≤ v.toRat ∧
      (v.toRat ≤ 100 ↔ cells D read rows column = 0 ∨
        hits D read rows condition ≤ cells D read rows column) ∧
      ((∀ row ∈ rows, D.truth (condition.eval D read row) = some true →
        column.eval D read row ≠ .null) →
        v.toRat ≤ 100) := by
  obtain ⟨e, v, he, hv, hvalue⟩ := amount_share D read rows column condition
  have hbound := percent_le_iff (m := hits D read rows condition) (n := cells D read rows column)
  refine ⟨e, v, he, hv, hvalue, ?_, ?_, ?_, ?_⟩
  · rintro (h | h) <;> simp [hvalue, h]
  · rw [hvalue]
    positivity
  · rw [hvalue, hbound]
  · intro hcontained
    rw [hvalue, hbound]
    exact .inr (hits_le_cells hcontained)

/-- A store without tables, which calculates nothing on its own. -/
def bareStore : Database where
  rows _ := []
  before _ _ := false
  holds _ := none
  number _ := .null
  arithmetic _ _ _ := .null
  call _ _ _ := .null
  resembles _ _ _ _ := none
  bucket _ _ := .null
  time _ := .null
  answer _ _ := []

/-- An alert as a row, with its owner if it has one. -/
def alertRow (severity : Int) (owner : Option Int) : Row
  | some "alerts", "alert_severity_id" => .value (.int severity)
  | some "alerts", "alert_owner_id" => owner.elim .null (.value ∘ .int)
  | _, _ => .null

/-- Two alerts of the severity asked for, of which one is owned, make two hundred percent of the
owned ones. -/
theorem exists_share_above_hundred :
    ∃ e v, aggregate? .ratio (.qualified "alerts" "alert_owner_id")
        (some (.eq (.qualified "alerts" "alert_severity_id") (.param 1))) = some e ∧
      e.amount bareStore (fun _ => .value (.int 4)) [alertRow 4 (some 5), alertRow 4 none] =
        .ok (some v) ∧
      ¬ v.toRat ≤ 100 := by
  obtain ⟨e, v, he, hv, hvalue⟩ := amount_share bareStore (fun _ => .value (.int 4))
    [alertRow 4 (some 5), alertRow 4 none] (.qualified "alerts" "alert_owner_id")
    (.eq (.qualified "alerts" "alert_severity_id") (.param 1))
  refine ⟨e, v, he, hv, ?_⟩
  rw [hvalue, percent_le_iff]
  decide

end IncidentBoard.Plan
