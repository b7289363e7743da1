import IncidentBoard.Access.Scope
import IncidentBoard.Proofs.Plan.Condition
import IncidentBoard.Proofs.Schema.Registered

/-! The condition that a scope adds to a plan. -/
namespace IncidentBoard.Access

open Sql Schema Plan

/-- The conditions of scopes by the ids they list, and the values bound for them. -/
inductive Restriction (p : Params) : List Int → List Int → Expr → Params → Prop
  | nothing : Restriction p [] [] .never p
  | customers (n : Int) (ns : List Int) :
    Restriction p (n :: ns) []
      (.inList customerColumn.expr (p.bindAll ((n :: ns).map .int)).1 false)
      (p.bindAll ((n :: ns).map .int)).2
  | cases (k : Int) (ks : List Int) :
    Restriction p [] (k :: ks)
      (.inQuery rowColumn.expr (Scope.linkedRows (p.bindAll ((k :: ks).map .int)).1) false)
      (p.bindAll ((k :: ks).map .int)).2
  | both (n : Int) (ns : List Int) (k : Int) (ks : List Int) :
    Restriction p (n :: ns) (k :: ks)
      (.or (.inList customerColumn.expr (p.bindAll ((n :: ns).map .int)).1 false)
        (.inQuery rowColumn.expr
          (Scope.linkedRows ((p.bindAll ((n :: ns).map .int)).2.bindAll ((k :: ks).map .int)).1)
          false))
      ((p.bindAll ((n :: ns).map .int)).2.bindAll ((k :: ks).map .int)).2

theorem restriction_restriction (customers cases : IdSet) (p : Params) :
    Restriction p customers.toList cases.toList (Scope.restriction customers cases p).1
      (Scope.restriction customers cases p).2 := by
  obtain ⟨ns, hn⟩ := customers
  obtain ⟨ks, hk⟩ := cases
  cases ns with
  | nil =>
    cases ks with
    | nil => exact .nothing
    | cons k ks => exact .cases k ks
  | cons n ns =>
    cases ks with
    | nil => exact .customers n ns
    | cons k ks => exact .both n ns k ks

namespace Scope

@[simp] theorem linkedRows_exprs (ids : List Expr) : (linkedRows ids).exprs =
    [.qualified linkTable linkRowColumn, .inList (.qualified linkTable linkCaseColumn) ids false] :=
  rfl

end Scope

namespace Restriction

variable {p p' : Params} {customers cases : List Int} {e : Expr}

/-- The ids are bound after all other values, those of customers first. -/
theorem values_eq (h : Restriction p customers cases e p') :
    p'.values = p.values ++ (customers ++ cases).map .int := by
  cases h <;> simp [Params.bindAll_eq]

/-- A restriction reads exactly the ids bound for it, in the order in which they are bound. -/
theorem params_eq (h : Restriction p customers cases e p') :
    e.params = List.range' (p.length + 1) (customers.length + cases.length) := by
  cases h with
  | nothing => simp [Expr.never, Expr.eq, Expr.int]
  | customers n ns => simp [Params.bindAll_eq]
  | cases k ks => simp [Params.bindAll_eq, Query.params, Expr.qualified]
  | both n ns k ks =>
    simp only [Params.bindAll_eq, Query.params, Expr.qualified, Expr.or, Params.length,
      Expr.params_binary, Expr.params_inList, Expr.params_inQuery, Column.params_expr,
      Expr.params_column, Scope.linkedRows_exprs, Expr.flatMap_params_map_param, List.flatMap_cons,
      List.flatMap_nil, List.append_nil, List.nil_append, List.length_append, List.length_map,
      List.length_cons]
    rw [Nat.add_right_comm p.values.length, List.range'_append_1]

/-- The parts of a restriction are the columns it compares and parameters. -/
theorem all {Q : Expr → Prop} (h : Restriction p customers cases e p')
    (never : Expr.never.All Q)
    (column : ∀ table name, (table, name) ∈ storedColumns → Q (.qualified table name))
    (param : ∀ i, Q (.param i))
    (list : ∀ table name values, values ≠ [] → Q (.inList (.qualified table name) values false))
    (query : ∀ ids : List Nat,
      Q (.inQuery rowColumn.expr (Scope.linkedRows (ids.map .param)) false))
    (or : ∀ a b, e = .or a b → Q e) : e.All Q := by
  have inList {ids : List Nat} (hids : ids ≠ []) {table name : String}
    (hc : (table, name) ∈ storedColumns) :
      (Expr.inList (.qualified table name) (ids.map .param) false).All Q := by
    have hlist := list table name (ids.map .param) (by simpa using hids)
    refine Expr.all_inList.2 ⟨hlist, Expr.all_column.2 (column _ _ hc), fun v hv => ?_⟩
    obtain ⟨i, -, rfl⟩ := List.mem_map.1 hv
    exact Expr.all_param.2 (param i)
  have inQuery {ids : List Nat} (hids : ids ≠ []) :
      (Expr.inQuery rowColumn.expr (Scope.linkedRows (ids.map .param)) false).All Q := by
    refine Expr.all_inQuery.2 ⟨query _, Expr.all_column.2 (column _ _ (by decide)), fun x hx => ?_⟩
    simp only [Scope.linkedRows_exprs, List.mem_cons, List.not_mem_nil, or_false] at hx
    rcases hx with rfl | rfl
    · exact Expr.all_column.2 (column _ _ (by decide))
    · exact inList hids (by decide)
  cases h with
  | nothing => exact never
  | customers n ns =>
    rw [Params.bindAll_eq]
    exact inList (by simp) (by decide)
  | cases k ks =>
    rw [Params.bindAll_eq]
    exact inQuery (by simp)
  | both n ns k ks =>
    have hor := or _ _ rfl
    rw [Params.bindAll_eq, Params.bindAll_eq] at hor ⊢
    exact Expr.all_binary.2 ⟨hor, inList (by simp) (by decide), inQuery (by simp)⟩

theorem regular (h : Restriction p customers cases e p') : e.Regular := by
  refine h.all ?_ (fun _ _ _ => trivial) (fun _ => trivial) (fun table name values hv => ?_)
    (fun _ => trivial) fun _ _ h => h ▸ trivial
  · exact Expr.all_binary.2 ⟨trivial, Expr.all_literal.2 trivial, Expr.all_literal.2 trivial⟩
  · cases values with
    | nil => exact absurd rfl hv
    | cons v vs => trivial

theorem precedence_eq (h : Restriction p customers cases e p') :
    e.precedence = 4 ∨ ∃ a b, e = .or a b ∧ a.precedence = 4 ∧ b.precedence = 4 := by
  cases h with
  | nothing => exact .inl rfl
  | customers n ns => exact .inl rfl
  | cases k ks => exact .inl rfl
  | both n ns k ks => exact .inr ⟨_, _, rfl, rfl, rfl⟩

end Restriction

/-- The plan on the rows that all of the scopes show. -/
def restrict (scopes : List Scope) (p : QueryPlan) : QueryPlan :=
  scopes.foldl (fun p s => s.apply p) p

/-- What every scope keeps, any sequence of scopes keeps. -/
theorem restrict_keeps {P : QueryPlan → Prop} (apply : ∀ {s : Scope} {p}, P p → P (s.apply p))
    {p : QueryPlan} (hp : P p) (scopes : List Scope) : P (restrict scopes p) := by
  induction scopes generalizing p with
  | nil => exact hp
  | cons s scopes ih => exact ih (apply hp)

/-- Scopes leave all of a plan as it is but its conditions and bound values. -/
theorem restrict_eq (scopes : List Scope) (p : QueryPlan) :
    ∃ predicates params, restrict scopes p = { p with predicates, params } := by
  refine restrict_keeps (P := fun q => ∃ predicates params, q = { p with predicates, params })
    (fun {s _} hq => ?_) ⟨_, _, rfl⟩ scopes
  obtain ⟨predicates, params, rfl⟩ := hq
  rcases s with - | ⟨customers, cases⟩ <;> exact ⟨_, _, rfl⟩

theorem restrict_selects (scopes : List Scope) (p : QueryPlan) :
    (restrict scopes p).selects = p.selects := by
  obtain ⟨predicates, params, h⟩ := restrict_eq scopes p
  rw [h]

theorem restrict_limit (scopes : List Scope) (p : QueryPlan) :
    (restrict scopes p).limit = p.limit := by
  obtain ⟨predicates, params, h⟩ := restrict_eq scopes p
  rw [h]

theorem restrict_timeLabel (scopes : List Scope) (p : QueryPlan) :
    (restrict scopes p).timeLabel = p.timeLabel := by
  obtain ⟨predicates, params, h⟩ := restrict_eq scopes p
  rw [h]

end IncidentBoard.Access
