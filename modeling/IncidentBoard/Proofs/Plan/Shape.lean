import IncidentBoard.Proofs.Plan.Steps

/-! What the outputs, conditions and joins of a compiled plan look like. -/
namespace IncidentBoard.Plan

open Sql Widget Schema

/-- The condition of some filter or bound on a registered column. -/
def IsCondition (e : Expr) : Prop := ∃ c ∈ columns, ∃ p p', Condition c p e p'

/-- A column that is grouped by, the axis, or an aggregate. -/
inductive Output : Select → Prop
  | group {c : Column} {label : String} (hc : c ∈ columns) (hl : isAlias label) :
    Output ⟨c.expr, label, .group, some c.kind⟩
  | axis {c : Column} {b : Bucket} {label : String} (hc : c ∈ columns) (hl : isAlias label) :
    Output ⟨.bucket c.expr b, label, .group, some .timestamp⟩
  | value {c : Column} {a : Aggregation} {condition : Option Expr} {e : Expr} {label : String}
    (hc : c ∈ columns) (hcond : ∀ x ∈ condition, IsCondition x)
    (he : aggregate? a c.expr condition = some e) (hl : isAlias label) :
    Output ⟨e, label, .value, none⟩

theorem IsCondition.regular {e : Expr} (h : IsCondition e) : e.Regular := by
  obtain ⟨c, -, p, p', h⟩ := h
  exact h.regular

theorem IsCondition.precedence_eq {e : Expr} (h : IsCondition e) : e.precedence = 4 := by
  obtain ⟨c, -, p, p', h⟩ := h
  exact h.precedence_eq

namespace Output

variable {s : Select}

theorem isAlias_label (h : Output s) : isAlias s.label := by
  cases h <;> assumption

theorem regular (h : Output s) : s.expr.Regular := by
  cases h with
  | @group c => exact Column.all_expr.2 trivial
  | @axis c => exact Expr.all_bucket.2 ⟨c.isColumn_expr, Column.all_expr.2 trivial⟩
  | value _ hcond he =>
    refine all_of_aggregate he (fun n hn => ?_) trivial fun x hx => (hcond x hx).regular
    cases hn <;> trivial

/-- What is grouped by holds no parameter, so that it may stand in the text twice. -/
theorem params_of_group (h : Output s) (hr : s.role = .group) : s.expr.params = [] := by
  cases h with
  | group | axis => simp
  | value => cases hr

end Output

/-- The steps of all registered paths. -/
def joinSteps : List JoinStep := tables.flatMap (·.path)

theorem joinPath_subset (table : String) : joinPath table ⊆ joinSteps := by
  intro j hj
  unfold joinPath at hj
  split at hj
  · next t ht => exact List.mem_flatMap.2 ⟨t, List.mem_of_find?_eq_some ht, hj⟩
  · cases hj

theorem addJoins_subset {joins path : List JoinStep} : addJoins joins path ⊆ joins ++ path := by
  induction path generalizing joins with
  | nil => simp [addJoins]
  | cons s path ih =>
    intro j hj
    rw [addJoins, List.foldl_cons] at hj
    have := ih hj
    split at this
    · rcases List.mem_append.1 this with hj | hj
      · exact List.mem_append_left _ hj
      · exact List.mem_append_right _ (List.mem_cons_of_mem _ hj)
    · simpa using this

namespace Draft

/-- The outputs in the order of the plan. -/
def outputs (d : Draft) : List Select := d.axis.toList ++ d.selects

structure Shaped (d : Draft) : Prop where
  outputs : ∀ s ∈ d.outputs, Output s
  conditions : ∀ e ∈ d.predicates, IsCondition e
  joins : ∀ j ∈ d.joins, j ∈ joinSteps

theorem mem_joins_requireTable {d : Draft} (h : ∀ j ∈ d.joins, j ∈ joinSteps) (table : String) :
    ∀ j ∈ (d.requireTable table).joins, j ∈ joinSteps := by
  intro j hj
  rcases List.mem_append.1 (addJoins_subset hj) with hj | hj
  · exact h j hj
  · exact joinPath_subset table hj

theorem Filtered.mem_joins {d d' : Draft} {condition : Option Expr} (h : d.Filtered condition d')
    (hj : ∀ j ∈ d.joins, j ∈ joinSteps) : ∀ j ∈ d'.joins, j ∈ joinSteps := by
  cases h with
  | all => exact hj
  | @where' c => exact mem_joins_requireTable hj c.table

theorem Filtered.isCondition {d d' : Draft} {condition : Option Expr}
    (h : d.Filtered condition d') :
    ∀ x ∈ condition, IsCondition x := by
  cases h with
  | all => simp
  | where' hc h => simpa using ⟨_, hc, _, _, h⟩

theorem Step.shaped {entry : Entry} {d d' : Draft} (hs : Step entry d d') (h : d.Shaped) :
    d'.Shaped := by
  obtain ⟨ho, hp, hj⟩ := h
  have hj' := mem_joins_requireTable hj
  cases hs with
  | again hc => exact ⟨ho, hp, hj' _⟩
  | group hc _ _ hl =>
    refine ⟨fun s hs => ?_, hp, hj' _⟩
    rw [Draft.outputs, ← List.append_assoc] at hs
    rcases List.mem_append.1 hs with hs | hs
    · exact ho s hs
    · rw [List.mem_singleton.1 hs]
      exact .group hc hl.valid
  | axis hc _ _ hl =>
    refine ⟨fun s hs => ?_, hp, hj' _⟩
    rcases List.mem_append.1 hs with hs | hs
    · rw [← Option.mem_some_iff.1 (Option.mem_toList.1 hs)]
      exact .axis hc hl.valid
    · exact ho s (List.mem_append_right _ hs)
  | @value _ d₁ _ _ _ _ _ hc _ hf he hl =>
    have hsame : d₁.axis = d.axis ∧ d₁.predicates = d.predicates := by cases hf <;> exact ⟨rfl, rfl⟩
    refine ⟨fun s hs => ?_, hsame.2 ▸ hp, hf.mem_joins (hj' _)⟩
    rw [Draft.outputs, hsame.1, ← List.append_assoc] at hs
    rcases List.mem_append.1 hs with hs | hs
    · exact ho s hs
    · rw [List.mem_singleton.1 hs]
      exact .value hc hf.isCondition he hl.valid
  | condition hc hcond =>
    refine ⟨ho, fun e he => ?_, hj' _⟩
    rcases List.mem_append.1 he with he | he
    · exact hp e he
    · rw [List.mem_singleton.1 he]
      exact ⟨_, hc, _, _, hcond⟩

theorem shaped_initial (time : Column) (bucket : Option Bucket) :
    (Draft.initial time bucket).Shaped := by
  constructor <;> simp [Draft.initial, Draft.outputs]

end Draft

theorem Compiled.shaped {definition : Definition} {w : Timeframe} {maxLimit : Nat} {p : QueryPlan}
    {d : Draft} (h : Compiled definition w maxLimit p d) : d.Shaped :=
  h.reaches.keeps Draft.Step.shaped (Draft.shaped_initial _ _)

end IncidentBoard.Plan
