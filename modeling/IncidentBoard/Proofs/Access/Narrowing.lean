import IncidentBoard.Proofs.Plan.Text
import IncidentBoard.Proofs.Sql.Evaluation

/-! Scopes only narrow a plan: they add a condition that holds of the rows they show. -/
namespace IncidentBoard

open Sql Plan

/-- The value that a parameter reads. -/
def Plan.Params.read (p : Params) : Nat → Datum
  | 0 => .null
  | i + 1 => match p.values[i]? with
    | some v => .value v
    | none => .null

namespace Plan.Params

variable {p p' : Params} {vs : List SqlValue}

/-- Values that are bound later do not change what a parameter reads. -/
theorem read_of_le (h : p'.values = p.values ++ vs) {i : Nat} (hi : i ≤ p.values.length) :
    p'.read i = p.read i := by
  cases i with
  | zero => rfl
  | succ i => rw [read, read, h, List.getElem?_append_left hi]

theorem map_read_range' (h : p'.values = p.values ++ vs) :
    (List.range' (p.length + 1) vs.length).map p'.read = vs.map .value := by
  refine List.ext_getElem (by simp) fun i hi _ => ?_
  have hi : i < vs.length := by simpa using hi
  have hget : p'.values[p.values.length + i]? = some vs[i] := by
    rw [h, List.getElem?_append_right (Nat.le_add_right _ _), Nat.add_sub_cancel_left,
      List.getElem?_eq_getElem hi]
  have hsucc : p.length + 1 + 1 * i = p.values.length + i + 1 := by
    simp only [length]
    omega
  rw [List.getElem_map, List.getElem_map, List.getElem_range', hsucc, read, hget]

end Plan.Params

namespace Plan.QueryPlan

open Schema

/-- Every parameter of a plan's text reads one of its bound values. -/
def Closed (p : QueryPlan) : Prop :=
  ∀ i ∈ (p.toQuery baseTable).params, 1 ≤ i ∧ i ≤ p.params.values.length

/-- The condition of a plan holds of a row; a plan without conditions takes every row. -/
def Admits (p : QueryPlan) (D : Database) (row : Row) : Prop :=
  ∀ e ∈ (p.toQuery baseTable).filter, D.truth (e.eval D p.params.read row) = some true

variable {D : Database} {row : Row}

theorem truth_foldl_and {read : Nat → Datum} {e : Expr} {es : List Expr} :
    D.truth ((es.foldl Expr.and e).eval D read row) = some true ↔
      ∀ x ∈ e :: es, D.truth (x.eval D read row) = some true := by
  induction es generalizing e with
  | nil => simp
  | cons x es ih =>
    rw [List.foldl_cons, ih]
    simp [Expr.truth_and, Truth.and_eq_true, and_assoc]

theorem admits_iff {p : QueryPlan} :
    p.Admits D row ↔ ∀ e ∈ p.predicates, D.truth (e.eval D p.params.read row) = some true := by
  have hfilter : (p.toQuery baseTable).filter = conjunction p.predicates := rfl
  unfold Admits
  rw [hfilter]
  cases p.predicates with
  | nil => simp [conjunction]
  | cons e es =>
    rw [← truth_foldl_and]
    simp [conjunction]

/-- The parameters of a plan's text stand in its conditions or around them. -/
theorem mem_params_toQuery {p : QueryPlan} {i : Nat} : i ∈ (p.toQuery baseTable).params ↔
    i ∈ ({ p with predicates := [] }.toQuery baseTable).params ∨
      ∃ e ∈ p.predicates, i ∈ e.params := by
  have hconditions : (∃ e ∈ p.predicates, i ∈ e.params) ↔
      i ∈ (conjunction p.predicates).toList.flatMap Expr.params := by
    rw [params_conjunction, List.mem_flatMap]
  rw [hconditions]
  simp only [Query.params, Query.exprs, QueryPlan.toQuery, List.flatMap_append, List.mem_append]
  simp only [conjunction, Option.toList_none, List.flatMap_nil, List.not_mem_nil]
  tauto

theorem Closed.params_le {p : QueryPlan} (h : p.Closed) {e : Expr} (he : e ∈ p.predicates) {i : Nat}
    (hi : i ∈ e.params) : i ≤ p.params.values.length :=
  (h i (mem_params_toQuery.2 (.inr ⟨e, he, hi⟩))).2

theorem Sound.closed {p : QueryPlan} (h : p.Sound) : p.Closed := by
  intro i hi
  rw [h.params_toQuery baseTable, List.mem_range'_1, Params.length] at hi
  omega

end Plan.QueryPlan

namespace Access

open Schema

/-- The ids of a scope in the order in which they are bound. -/
def Scope.ids : Scope → List Int
  | .unrestricted => []
  | .scoped customers cases => customers.toList ++ cases.toList

/-- The row belongs to one of the customers. -/
def OwnedBy (row : Row) (customers : List Int) : Prop :=
  ∃ n ∈ customers, row (some baseTable) customerColumn.name = .value (.int n)

/-- The link table links the row to one of the cases. -/
def LinkedTo (D : Database) (row : Row) (cases : List Int) : Prop :=
  row (some baseTable) rowColumn.name ≠ .null ∧ ∃ link ∈ D.rows linkTable,
    (∃ k ∈ cases, link linkCaseColumn = .value (.int k)) ∧
      link linkRowColumn = row (some baseTable) rowColumn.name

def Scope.Shows (D : Database) (row : Row) : Scope → Prop
  | .unrestricted => True
  | .scoped customers cases => OwnedBy row customers.toList ∨ LinkedTo D row cases.toList

section Meaning

variable {D : Database} {row : Row} {read : Nat → Datum}

theorem truth_inList {table name : String} {ids : List Nat} :
    D.truth ((Expr.inList (.qualified table name) (ids.map .param) false).eval D read row) =
      some true ↔
      row (some table) name ≠ .null ∧ row (some table) name ∈ ids.map read := by
  have hcolumn : (Expr.qualified table name).eval D read row = row (some table) name := rfl
  have hvalues : (ids.map Expr.param).map (fun e => e.eval D read row) = ids.map read := by
    rw [List.map_map]
    rfl
  rw [Expr.truth_inList, Truth.negateIf_false, hcolumn, hvalues, Database.member_eq_true]

theorem eval_linkedRows {ids : List Expr} : (Scope.linkedRows ids).eval D read row =
    ((D.rows linkTable).filter fun cells =>
      D.truth ((Expr.inList (.qualified linkTable linkCaseColumn) ids false).eval D read
        (row.enter linkTable cells)) = some true).map fun cells => cells linkRowColumn := by
  rfl

theorem enter_linkTable {cells : String → Datum} {name : String} :
    row.enter linkTable cells (some linkTable) name = cells name := by
  simp [Row.enter]

theorem truth_inQuery {ids : List Nat} :
    D.truth ((Expr.inQuery rowColumn.expr (Scope.linkedRows (ids.map .param)) false).eval
      D read row) = some true ↔
      row (some baseTable) rowColumn.name ≠ .null ∧ ∃ link ∈ D.rows linkTable,
        (link linkCaseColumn ≠ .null ∧ link linkCaseColumn ∈ ids.map read) ∧
          link linkRowColumn = row (some baseTable) rowColumn.name := by
  have hcolumn : rowColumn.expr.eval D read row = row (some baseTable) rowColumn.name := rfl
  rw [Expr.truth_inQuery, Truth.negateIf_false, hcolumn, Database.member_eq_true, eval_linkedRows]
  simp only [truth_inList, enter_linkTable, List.mem_map, List.mem_filter, decide_eq_true_eq,
    and_assoc]

/-- A bound id is among the values that its parameters read. -/
theorem ne_null_and_mem_iff {d : Datum} {ids : List Int} :
    d ≠ .null ∧ d ∈ (ids.map SqlValue.int).map Datum.value ↔ ∃ n ∈ ids, d = .value (.int n) := by
  rw [List.map_map, List.mem_map]
  constructor
  · rintro ⟨-, n, hn, rfl⟩
    exact ⟨n, hn, rfl⟩
  · rintro ⟨n, hn, rfl⟩
    exact ⟨by simp, n, hn, rfl⟩

theorem truth_byCustomer {ids : List Nat} {customers : List Int}
    (h : ids.map read = (customers.map SqlValue.int).map .value) :
    D.truth ((Expr.inList customerColumn.expr (ids.map .param) false).eval D read row) = some true ↔
      OwnedBy row customers := by
  have hcolumn : customerColumn.expr = .qualified baseTable customerColumn.name := rfl
  rw [hcolumn, truth_inList, h, ne_null_and_mem_iff]
  rfl

theorem truth_byCase {ids : List Nat} {cases : List Int}
    (h : ids.map read = (cases.map SqlValue.int).map .value) :
    D.truth ((Expr.inQuery rowColumn.expr (Scope.linkedRows (ids.map .param)) false).eval
      D read row) = some true ↔ LinkedTo D row cases := by
  rw [truth_inQuery, h]
  simp only [ne_null_and_mem_iff]
  rfl

theorem truth_never : D.truth (Expr.never.eval D read row) = some false := rfl

theorem not_ownedBy_nil : ¬ OwnedBy row [] := by
  rintro ⟨n, hn, -⟩
  cases hn

theorem not_linkedTo_nil : ¬ LinkedTo D row [] := by
  rintro ⟨-, link, -, ⟨k, hk, -⟩, -⟩
  cases hk

/-- A restriction holds of the rows that belong to its customers or are linked to its cases. -/
theorem Restriction.truth {p p' : Params} {customers cases : List Int} {e : Expr}
    (h : Restriction p customers cases e p') :
    D.truth (e.eval D p'.read row) = some true ↔ OwnedBy row customers ∨ LinkedTo D row cases := by
  cases h with
  | nothing => simp [truth_never, not_ownedBy_nil, not_linkedTo_nil]
  | customers n ns =>
    rw [Params.bindAll_eq, truth_byCustomer (Params.map_read_range' rfl)]
    simp [not_linkedTo_nil]
  | cases k ks =>
    rw [Params.bindAll_eq, truth_byCase (Params.map_read_range' rfl)]
    simp [not_ownedBy_nil]
  | both n ns k ks =>
    rw [Params.bindAll_eq, Params.bindAll_eq]
    have hfirst : (List.range' (p.length + 1) ((n :: ns).map SqlValue.int).length).map
        (Params.read ⟨p.values ++ (n :: ns).map .int⟩) = ((n :: ns).map SqlValue.int).map .value :=
      Params.map_read_range' rfl
    -- the ids of customers read the same after those of cases are bound
    have hread : (List.range' (p.length + 1) ((n :: ns).map SqlValue.int).length).map
        (Params.read ⟨p.values ++ (n :: ns).map .int ++ (k :: ks).map .int⟩) =
          ((n :: ns).map SqlValue.int).map .value := by
      rw [← hfirst]
      refine List.map_congr_left fun i hi => Params.read_of_le rfl ?_
      have hi := (List.mem_range'_1.1 hi).2
      simp only [Params.length, List.length_append] at hi ⊢
      omega
    rw [Expr.truth_or, Truth.or_eq_true, truth_byCustomer hread,
      truth_byCase (Params.map_read_range' rfl)]

end Meaning

section Narrowing

variable {p : QueryPlan}

theorem apply_scoped_eq (customers cases : IdSet) (p : QueryPlan) :
    (Scope.scoped customers cases).apply p = { p with
      predicates := p.predicates ++ [(Scope.restriction customers cases p.params).1]
      params := (Scope.restriction customers cases p.params).2 } := rfl

/-- A scope adds its condition and binds its ids; nothing else of a plan changes. -/
theorem apply_eq (s : Scope) (p : QueryPlan) : s.apply p =
    { p with
      predicates := p.predicates ++ (s.predicate p.params).1.toList
      params := ⟨p.params.values ++ s.ids.map .int⟩ } := by
  rcases s with - | ⟨customers, cases⟩
  · simp [Scope.apply, Scope.predicate, Scope.ids]
  · have hr := restriction_restriction customers cases p.params
    rw [apply_scoped_eq, Scope.ids, ← hr.values_eq]
    rfl

theorem closed_apply (hp : p.Closed) (s : Scope) : (s.apply p).Closed := by
  rcases s with - | ⟨customers, cases⟩
  · exact hp
  · have hr := restriction_restriction customers cases p.params
    have hlen := congrArg List.length hr.values_eq
    simp only [List.length_append, List.length_map] at hlen
    intro i hi
    rw [apply_scoped_eq] at hi ⊢
    rcases QueryPlan.mem_params_toQuery.1 hi with hi | ⟨e, he, hi⟩
    · have hi := hp i (QueryPlan.mem_params_toQuery.2 (.inl hi))
      dsimp only
      omega
    · rcases List.mem_append.1 he with he | he
      · have hi := hp i (QueryPlan.mem_params_toQuery.2 (.inr ⟨e, he, hi⟩))
        dsimp only
        omega
      · rw [List.mem_singleton.1 he, hr.params_eq, List.mem_range'_1, Params.length] at hi
        dsimp only
        omega

/-- A scope keeps the rows of a plan that it shows. -/
theorem admits_apply (hp : p.Closed) (s : Scope) (D : Database) (row : Row) :
    (s.apply p).Admits D row ↔ p.Admits D row ∧ s.Shows D row := by
  rcases s with - | ⟨customers, cases⟩
  · exact (and_iff_left trivial).symm
  · have hr := restriction_restriction customers cases p.params
    -- the old conditions read none of the ids
    have hold (e : Expr) (he : e ∈ p.predicates) :
        e.eval D (Scope.restriction customers cases p.params).2.read row =
          e.eval D p.params.read row :=
      Expr.eval_congr D (fun i hi => Params.read_of_le hr.values_eq (hp.params_le he hi)) row
    rw [QueryPlan.admits_iff, QueryPlan.admits_iff, apply_scoped_eq, Scope.Shows, ← hr.truth,
      List.forall_mem_append, List.forall_mem_singleton]
    refine and_congr_left fun _ => forall₂_congr fun e he => ?_
    rw [hold e he]

theorem not_shows_of_isDenyAll {s : Scope} (h : s.isDenyAll) (D : Database) (row : Row) :
    ¬ s.Shows D row := by
  rcases s with - | ⟨customers, cases⟩
  · cases h
  · obtain ⟨hcustomers, hcases⟩ := Bool.and_eq_true_iff.1 h
    rw [Scope.Shows, List.isEmpty_iff.1 hcustomers, List.isEmpty_iff.1 hcases]
    exact not_or.2 ⟨not_ownedBy_nil, not_linkedTo_nil⟩

theorem admits_restrict (hp : p.Closed) (scopes : List Scope) (D : Database) (row : Row) :
    (restrict scopes p).Admits D row ↔ p.Admits D row ∧ ∀ s ∈ scopes, s.Shows D row := by
  induction scopes generalizing p with
  | nil => simp [restrict]
  | cons s scopes ih =>
    have hcons : restrict (s :: scopes) p = restrict scopes (s.apply p) := rfl
    rw [hcons, ih (closed_apply hp s), admits_apply hp, List.forall_mem_cons, and_assoc]

/-- Scopes only narrow a plan that reads nothing but its bound values, as every compiled plan does:
each one adds its condition and its ids, and takes from the rows of the plan those that it does not
show. -/
theorem scopes_narrow :
    (∀ definition w maxLimit p, compile definition w maxLimit = .ok p → p.Closed) ∧
    ∀ p : QueryPlan, p.Closed →
      (∀ s : Scope, s.apply p =
        { p with
          predicates := p.predicates ++ (s.predicate p.params).1.toList
          params := ⟨p.params.values ++ s.ids.map .int⟩ }) ∧
      (∀ (s : Scope) (D : Database) (row : Row),
        (s.apply p).Admits D row ↔ p.Admits D row ∧ s.Shows D row) ∧
      (∀ s : Scope, s.isDenyAll → ∀ (D : Database) (row : Row), ¬ (s.apply p).Admits D row) ∧
      ∀ (scopes : List Scope) (D : Database) (row : Row),
        (restrict scopes p).Admits D row ↔ p.Admits D row ∧ ∀ s ∈ scopes, s.Shows D row := by
  refine ⟨fun _ _ _ p h => (sound_of_compile h).closed, fun p hp => ?_⟩
  refine ⟨fun s => apply_eq s p, admits_apply hp, fun s hs D row h => ?_, admits_restrict hp⟩
  exact not_shows_of_isDenyAll hs D row ((admits_apply hp s D row).1 h).2

theorem scopes_narrow_severeShare : ∃ p, compile severeShare sinceMarch 10000 = .ok p ∧ p.Closed ∧
    (∀ (D : Database) (row : Row),
      (clientScope.apply p).Admits D row ↔ p.Admits D row ∧
        (OwnedBy row [3, 7] ∨ LinkedTo D row [42])) ∧
    ∀ (D : Database) (row : Row), ¬ (Scope.denyAll.apply p).Admits D row := by
  obtain ⟨p, h, -⟩ := exists_compile_severeShare
  have hp := scopes_narrow.1 _ _ _ p h
  obtain ⟨-, hadmits, hdeny, -⟩ := scopes_narrow.2 p hp
  exact ⟨p, h, hp, hadmits clientScope, hdeny .denyAll rfl⟩

end Narrowing

end Access

end IncidentBoard
