import IncidentBoard.Plan.Predicate
import IncidentBoard.Proofs.Sql.Placeholders

/-! What filters and aggregates become: the shapes of their expressions and the values they bind. -/
namespace IncidentBoard.Plan

open Sql Widget

theorem ok_of_bind {ε α β : Type} {x : Except ε α} {f : α → Except ε β} {b : β}
    (h : x >>= f = .ok b) :
    ∃ a, x = .ok a ∧ f a = .ok b := by
  cases x with
  | error e => cases h
  | ok a => exact ⟨a, rfl, h⟩

theorem ok_of_map {ε α β : Type} {x : Except ε α} {f : α → β} {b : β} (h : x.map f = .ok b) :
    ∃ a, x = .ok a ∧ f a = b := by
  cases x with
  | error e => cases h
  | ok a => exact ⟨a, rfl, Except.ok.inj h⟩

theorem error_of_map {ε α β : Type} {x : Except ε α} {f : α → β} {e : ε} (h : x.map f = .error e) :
    x = .error e := by
  cases x with
  | error e' => exact congrArg Except.error (Except.error.inj h)
  | ok a => cases h

namespace Params

def length (p : Params) : Nat := p.values.length

@[simp] theorem bind_fst (p : Params) (v : SqlValue) : (p.bind v).1 = .param (p.length + 1) := rfl

@[simp] theorem values_bind (p : Params) (v : SqlValue) : (p.bind v).2.values = p.values ++ [v] :=
  rfl

@[simp] theorem length_bind (p : Params) (v : SqlValue) : (p.bind v).2.length = p.length + 1 := by
  simp [length]

theorem bindAll_eq (p : Params) (vs : List SqlValue) :
    p.bindAll vs = ((List.range' (p.length + 1) vs.length).map .param, ⟨p.values ++ vs⟩) := by
  induction vs generalizing p with
  | nil => simp [bindAll]
  | cons v vs ih =>
    simp only [bindAll, ih, bind_fst, length_bind, values_bind, List.length_cons, List.range'_succ,
      List.map_cons, List.append_assoc, List.singleton_append]

end Params

end IncidentBoard.Plan

namespace IncidentBoard.Sql

/-- Whether an operator compares two values. -/
def BinOp.compares (op : BinOp) : Bool := op.precedence == 4

end IncidentBoard.Sql

namespace IncidentBoard.Column

open Sql

@[simp] theorem isColumn_expr (c : Column) : c.expr.isColumn := rfl

@[simp] theorem isCell_comparable (c : Column) : c.comparable.isCell := by
  unfold comparable
  split <;> rfl

@[simp] theorem params_expr (c : Column) : c.expr.params = [] := Expr.params_column _ _

@[simp] theorem params_comparable (c : Column) : c.comparable.params = [] :=
  Expr.params_of_isCell c.isCell_comparable

theorem all_expr {Q : Expr → Prop} {c : Column} : c.expr.All Q ↔ Q c.expr := Expr.all_column

theorem regular_comparable (c : Column) : c.comparable.Regular := by
  unfold comparable
  split
  · exact Expr.all_timestamp.2 ⟨c.isColumn_expr, all_expr.2 trivial⟩
  · exact all_expr.2 trivial

end IncidentBoard.Column

namespace IncidentBoard.Plan

open Sql Widget

/-- The conditions on a column that a plan states, and the values bound for them. -/
inductive Condition (c : Column) (p : Params) : Expr → Params → Prop
  | null (negated : Bool) : Condition c p (.isNull c.expr negated) p
  | compare {op : BinOp} (h : op.compares) (v : SqlValue) :
    Condition c p (.binary op c.comparable (p.bind v).1) (p.bind v).2
  | list (vs : List SqlValue) (negated : Bool) :
    Condition c p (.inList c.comparable (p.bindAll vs).1 negated) (p.bindAll vs).2
  | range (low high : SqlValue) :
    Condition c p (.between c.comparable (p.bind low).1 ((p.bind low).2.bind high).1 false)
      ((p.bind low).2.bind high).2
  | text (pattern : String) :
    Condition c p (.like c.comparable (p.bind (.text pattern)).1 '\\' true)
      (p.bind (.text pattern)).2

theorem condition_of_compareWith {c : Column} {p p' : Params} {e : Expr} {op : BinOp} {value : Json}
    (hop : op.compares) (h : predicate.compareWith c p op value = .ok (e, p')) :
    Condition c p e p' := by
  obtain ⟨v, -, h⟩ := ok_of_bind h
  cases h
  exact .compare hop v

theorem condition_of_predicate {c : Column} {op : Operator} {value : Json} {p p' : Params}
    {e : Expr} (h : predicate c op value p = .ok (e, p')) : Condition c p e p' := by
  unfold predicate at h
  split at h
  · cases h; exact .null false
  · cases h; exact .null true
  · obtain ⟨vs, -, h⟩ := ok_of_bind h
    cases h
    exact .list vs false
  · obtain ⟨vs, -, h⟩ := ok_of_bind h
    cases h
    exact .list vs true
  · cases h
  · cases h
  · obtain ⟨low, -, h⟩ := ok_of_bind h
    obtain ⟨high, -, h⟩ := ok_of_bind h
    cases h
    exact .range low high
  · cases h
  · split at h
    · split at h
      · cases h
        exact .text _
      · cases h
    · cases h
  all_goals exact condition_of_compareWith rfl h

namespace Condition

variable {c : Column} {p p' : Params} {e : Expr}

/-- A condition reads exactly the values bound for it, in the order in which they are bound. -/
theorem binds (h : Condition c p e p') :
    ∃ vs, p'.values = p.values ++ vs ∧ e.params = List.range' (p.length + 1) vs.length := by
  cases h with
  | null negated => exact ⟨[], by simp, by simp⟩
  | compare _ v => exact ⟨[v], by simp, by simp⟩
  | list vs negated => exact ⟨vs, by simp [Params.bindAll_eq], by simp [Params.bindAll_eq]⟩
  | range low high => exact ⟨[low, high], by simp, by simp [List.range'_succ]⟩
  | text pattern => exact ⟨[.text pattern], by simp, by simp⟩

/-- The parts of a condition are its column and parameters. -/
theorem all {Q : Expr → Prop} (h : Condition c p e p') (self : Q e) (column : Q c.expr)
    (cell : c.comparable.All Q) (param : ∀ i, Q (.param i)) : e.All Q := by
  cases h with
  | null negated => exact Expr.all_isNull.2 ⟨self, Column.all_expr.2 column⟩
  | compare _ v => exact Expr.all_binary.2 ⟨self, cell, Expr.all_param.2 (param _)⟩
  | list vs negated =>
    refine Expr.all_inList.2 ⟨self, cell, fun v hv => ?_⟩
    rw [Params.bindAll_eq] at hv
    obtain ⟨i, -, rfl⟩ := List.mem_map.1 hv
    exact Expr.all_param.2 (param i)
  | range low high =>
    exact Expr.all_between.2 ⟨self, cell, Expr.all_param.2 (param _), Expr.all_param.2 (param _)⟩
  | text pattern => exact Expr.all_like.2 ⟨self, cell, Expr.all_param.2 (param _)⟩

theorem takesCells (h : Condition c p e p') : e.TakesCells := by
  cases h with
  | list vs negated =>
    cases vs with
    | nil => exact c.isCell_comparable
    | cons v vs => trivial
  | _ => trivial

theorem regular (h : Condition c p e p') : e.Regular :=
  h.all h.takesCells trivial c.regular_comparable fun _ => trivial

theorem precedence_eq (h : Condition c p e p') : e.precedence = 4 := by
  cases h with
  | compare hop v => exact beq_iff_eq.1 hop
  | _ => rfl

end Condition

section Aggregate

variable {a : Aggregation} {c : Column} {condition : Option Expr} {e : Expr}

/-- An aggregate reads what its condition reads. -/
theorem params_of_aggregate (h : aggregate? a c.expr condition = some e) :
    e.params = condition.toList.flatMap Expr.params := by
  cases condition <;> cases a <;> cases h <;>
    simp [Expr.apply, Expr.ifThen, Expr.int, Expr.null]

def aggregateFunctions : List String := ["COUNT", "SUM", "AVG", "MIN", "MAX", "NULLIF", "COALESCE"]

/-- What aggregates put around their column and condition. -/
inductive AggregateNode : Expr → Prop
  | call {name : String} (h : name ∈ aggregateFunctions) (args : List Expr) : AggregateNode
      (.apply name args)
  | case (condition x y : Expr) : AggregateNode (.ifThen condition x y)
  | zero : AggregateNode (.int 0)
  | one : AggregateNode (.int 1)
  | hundred : AggregateNode (.literal (.float 100.0))
  | null : AggregateNode .null
  | times (x y : Expr) : AggregateNode (.binary .times x y)
  | divide (x y : Expr) : AggregateNode (.binary .divide x y)

theorem all_of_aggregate {Q : Expr → Prop} (h : aggregate? a c.expr condition = some e)
    (node : ∀ n, AggregateNode n → Q n) (column : Q c.expr) (hcond : ∀ x ∈ condition, x.All Q) :
    e.All Q := by
  have call {name : String} {args : List Expr} (hn : name ∈ aggregateFunctions)
    (ha : ∀ x ∈ args, x.All Q) :
      (Expr.apply name args).All Q := Expr.all_call.2 ⟨node _ (.call hn args), ha⟩
  have zero : (Expr.int 0).All Q := Expr.all_literal.2 (node _ .zero)
  have one : (Expr.int 1).All Q := Expr.all_literal.2 (node _ .one)
  have null : Expr.null.All Q := Expr.all_literal.2 (node _ .null)
  have column : c.expr.All Q := Column.all_expr.2 column
  cases condition with
  | none =>
    cases a <;> cases h
    all_goals exact call (by decide) (by simpa using column)
  | some x =>
    have ifThen {y z : Expr} (hy : y.All Q) (hz : z.All Q) : (x.ifThen y z).All Q :=
      Expr.all_case.2 ⟨node _ (.case x y z), by simpa using ⟨hcond x rfl, hy⟩, by simpa using hz⟩
    have hits : (Expr.apply "SUM" [x.ifThen (.int 1) (.int 0)]).All Q :=
      call (by decide) (by simpa using ifThen one zero)
    cases a with
    | count => cases h; exact hits
    | sum => cases h; exact call (by decide) (by simpa using ifThen column zero)
    | avg | min | max => cases h; exact call (by decide) (by simpa using ifThen column null)
    | ratio =>
      cases h
      have count : (Expr.apply "COUNT" [c.expr]).All Q := call (by decide) (by simpa using column)
      have total : (Expr.apply "NULLIF" [.apply "COUNT" [c.expr], .int 0]).All Q :=
        call (by decide) (by simpa using ⟨count, zero⟩)
      have share := Expr.all_binary.2 ⟨node _ (.divide _ _), Expr.all_binary.2
        ⟨node _ (.times _ _), Expr.all_literal.2 (node _ .hundred), hits⟩, total⟩
      exact call (by decide) (List.forall_mem_cons.2 ⟨share, by simpa using zero⟩)

end Aggregate

end IncidentBoard.Plan
