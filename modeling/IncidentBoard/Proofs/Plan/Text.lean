import IncidentBoard.Proofs.Plan.Sound

/-! The expressions in the text of a plan. -/
namespace IncidentBoard.Plan

open Sql Widget Schema Access

/-- The tokens of a plan's text. -/
def QueryPlan.tokens (p : QueryPlan) (d : Dialect) : List Token :=
  (p.toQuery baseTable).tokens d true

theorem QueryPlan.toSql_eq (p : QueryPlan) (d : Dialect) : p.toSql d = serialize d (p.tokens d) :=
  rfl

section Conjunction

theorem params_foldl_and (e : Expr) (es : List Expr) :
    (es.foldl Expr.and e).params = e.params ++ es.flatMap Expr.params := by
  induction es generalizing e with
  | nil => simp
  | cons x es ih => simp [ih, Expr.and]

theorem params_conjunction (es : List Expr) :
    (conjunction es).toList.flatMap Expr.params = es.flatMap Expr.params := by
  cases es with
  | nil => rfl
  | cons e es => simp [conjunction, params_foldl_and]

theorem all_foldl_and {Q : Expr → Prop} (hand : ∀ a b, Q (.and a b)) {e : Expr} {es : List Expr}
    (he : e.All Q) (h : ∀ x ∈ es, x.All Q) : (es.foldl Expr.and e).All Q := by
  induction es generalizing e with
  | nil => exact he
  | cons x es ih =>
    refine ih (Expr.all_binary.2 ⟨hand _ _, he, h x List.mem_cons_self⟩) fun y hy => ?_
    exact h y (List.mem_cons_of_mem _ hy)

theorem all_conjunction {Q : Expr → Prop} (hand : ∀ a b, Q (.and a b)) {es : List Expr}
    (h : ∀ x ∈ es, x.All Q) : ∀ e ∈ conjunction es, e.All Q := by
  intro e he
  cases es with
  | nil => cases he
  | cons x es =>
    obtain rfl := Option.mem_some_iff.1 he
    exact all_foldl_and hand (h x List.mem_cons_self) fun y hy => h y (List.mem_cons_of_mem _ hy)

end Conjunction

namespace QueryPlan.Sound

variable {p : QueryPlan}

/-- The expressions around the condition of a plan: outputs, joins, groups and keys. -/
theorem all_exprs_around {Q : Expr → Prop} (h : p.Sound) (output : ∀ s, Output s → s.expr.All Q)
    (join : ∀ j ∈ joinSteps, j.on.All Q) (key : ∀ label ∈ p.selectLabels, Q (.col label))
    (base : String) :
    ∀ e ∈ ({ p.toQuery base with filter := none } : Query).exprs, e.All Q := by
  intro e he
  simp only [Query.exprs, QueryPlan.toQuery, List.map_map, List.mem_append, Option.toList_none,
    List.not_mem_nil, or_false] at he
  rcases he with ((he | he) | he) | he
  · obtain ⟨s, hs, rfl⟩ := List.mem_map.1 he
    exact output s (h.outputs s hs)
  · obtain ⟨j, hj, rfl⟩ := List.mem_map.1 he
    exact join j (h.joins j hj)
  · rw [h.groups] at he
    obtain ⟨s, hs, rfl⟩ := List.mem_map.1 he
    exact output s (h.outputs s (List.mem_filter.1 hs).1)
  · obtain ⟨k, hk, rfl⟩ := List.mem_map.1 he
    obtain ⟨label, hl, hexpr⟩ := h.keys k hk
    rw [hexpr]
    exact Expr.all_column.2 (key label hl)

theorem all_exprs {Q : Expr → Prop} (h : p.Sound) (hand : ∀ a b, Q (.and a b))
    (output : ∀ s, Output s → s.expr.All Q) (join : ∀ j ∈ joinSteps, j.on.All Q)
    (condition : ∀ e, IsCondition e → e.All Q) (restriction : ∀ e, IsRestriction e → e.All Q)
    (key : ∀ label ∈ p.selectLabels, Q (.col label)) (base : String) :
    ∀ e ∈ (p.toQuery base).exprs, e.All Q := by
  intro e he
  have hsplit : e ∈ conjunction p.predicates ∨
      e ∈ ({ p.toQuery base with filter := none } : Query).exprs := by
    simp only [Query.exprs, QueryPlan.toQuery, List.mem_append, Option.mem_toList,
      Option.toList_none, List.not_mem_nil, or_false] at he ⊢
    tauto
  rcases hsplit with he | he
  · exact all_conjunction hand (fun x hx => (h.predicates x hx).elim (condition x) (restriction x))
      e he
  · exact h.all_exprs_around output join key base e he

theorem regular_exprs (h : p.Sound) (base : String) : ∀ e ∈ (p.toQuery base).exprs, e.Regular :=
  h.all_exprs (fun _ _ => trivial) (fun _ hs => hs.regular)
    (fun _ _ => Expr.all_binary.2 ⟨trivial, Expr.all_column.2 trivial, Expr.all_column.2 trivial⟩)
    (fun _ he => he.regular) (fun _ he => he.regular) (fun _ _ => trivial) base

/-- The text of a plan reads every bound value once, in the order in which they were bound. -/
theorem params_toQuery (h : p.Sound) (base : String) :
    (p.toQuery base).params = List.range' 1 p.params.length := by
  have hjoins : p.joins.flatMap (fun j => (joinOf j).on.params) = [] := by
    simp [joinOf, JoinStep.on, Expr.eq, Expr.qualified]
  have hgroups : p.groupBy.flatMap Expr.params = [] := by
    rw [h.groups, List.flatMap_eq_nil_iff]
    intro e he
    obtain ⟨s, hs, rfl⟩ := List.mem_map.1 he
    obtain ⟨hs, hr⟩ := List.mem_filter.1 hs
    exact (h.outputs s hs).params_of_group (beq_iff_eq.1 hr)
  have hkeys : p.orderBy.flatMap (fun k => k.expr.params) = [] := by
    rw [List.flatMap_eq_nil_iff]
    intro k hk
    obtain ⟨label, -, hexpr⟩ := h.keys k hk
    rw [hexpr]
    exact Expr.params_column _ _
  rw [← h.numbered, ← params_conjunction]
  simp [Query.params, Query.exprs, QueryPlan.toQuery, List.flatMap_map, Select.item, hjoins,
    hgroups, hkeys]

end QueryPlan.Sound

section Sample

/-- The share of severe alerts of each client, every five minutes. -/
def severeShare : Definition where
  chartType := some .timechart
  fields := [⟨"alerts", "alert_id", some "share", some "ratio",
    some ⟨"severities", "severity_name", "in", .arr [.str "High", .str "Critical"]⟩⟩]
  groupBy := ["alerts.alert_creation_time", "client.name"]
  filters := [⟨"alerts", "alert_severity_id", "between", .arr [.int 2, .str "5"]⟩]
  timeBucket := some .fiveMinutes
  options := { limit := some 25 }

def sinceMarch : Timeframe := ⟨(Date.ofYMD? 2024 3 1).map Date.midnight, none⟩

def clientScope : Scope := .scoped (.ofList [7, 3]) (.ofList [42])

/-- Five values of the definition and its window, and the three ids of the scope. -/
theorem exists_compile_severeShare : ∃ p, compile severeShare sinceMarch 10000 = .ok p ∧
    (restrict [clientScope, .denyAll] p).params.values.length = 8 ∧
    (restrict [clientScope, .denyAll] p).predicates.length = 4 := by
  have h : (compile severeShare sinceMarch 10000).map (fun p =>
      let q := restrict [clientScope, .denyAll] p
      (q.params.values.length, q.predicates.length)) = .ok (8, 4) := by
    rfl
  obtain ⟨p, hp, hlengths⟩ := ok_of_map h
  exact ⟨p, hp, Prod.mk.inj hlengths⟩

end Sample

end IncidentBoard.Plan
