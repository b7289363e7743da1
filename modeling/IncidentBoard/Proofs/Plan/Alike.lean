import IncidentBoard.Proofs.Access.Restriction
import Mathlib.Data.List.Forall2

/-! Filters, windows and scopes that differ in their values have the same conditions. -/
namespace IncidentBoard

open Sql Widget Schema Access

namespace Widget

/-- Filters that differ in their values. Whether a value is null tells `eq` and `neq` what to ask,
and the length of a list tells `in` and `nin` how much there is to compare with; so these are the
same. -/
structure Filter.Alike (f g : Filter) : Prop where
  table : f.table = g.table
  column : f.column = g.column
  operator : f.operator = g.operator
  null : f.operator = Operator.eq.name ∨ f.operator = Operator.neq.name →
    (f.value = .null ↔ g.value = .null)
  length : f.operator = Operator.isIn.name ∨ f.operator = Operator.notIn.name →
    ∀ xs ys, f.value = .arr xs → g.value = .arr ys → xs.length = ys.length

structure Field.Alike (f g : Field) : Prop where
  table : f.table = g.table
  column : f.column = g.column
  label : f.label = g.label
  aggregation : f.aggregation = g.aggregation
  filter : Option.Rel Filter.Alike f.filter g.filter

/-- Definitions that differ in the values of their filters. -/
structure Definition.Alike (a b : Definition) : Prop where
  chartType : a.chartType = b.chartType
  fields : List.Forall₂ Field.Alike a.fields b.fields
  groupBy : a.groupBy = b.groupBy
  filters : List.Forall₂ Filter.Alike a.filters b.filters
  timeBucket : a.timeBucket = b.timeBucket
  options : a.options = b.options

theorem Operator.name_of_ofName? {s : String} {op : Operator} (h : Operator.ofName? s = some op) :
    op.name = s := by
  have hname := List.find?_some h
  exact beq_iff_eq.1 hname

end Widget

/-- Windows that are open on the same sides. -/
structure Timeframe.Alike (w w' : Timeframe) : Prop where
  start : w.start.isSome = w'.start.isSome
  stop : w.stop.isSome = w'.stop.isSome

/-- Scopes of as many customers and as many cases. -/
inductive Access.Scope.Alike : Scope → Scope → Prop
  | unrestricted : Alike .unrestricted .unrestricted
  | restricted {customers customers' cases cases' : IdSet}
    (hcustomers : customers.toList.length = customers'.toList.length)
    (hcases : cases.toList.length = cases'.toList.length) :
    Alike (.scoped customers cases) (.scoped customers' cases')

namespace Plan

section Both

variable {ε α β γ δ : Type} {R : α → β → Prop} {S : γ → δ → Prop}

/-- Two computations have related results if both have one. -/
def Both (R : α → β → Prop) (x : Except ε α) (y : Except ε β) : Prop :=
  ∀ a b, x = .ok a → y = .ok b → R a b

theorem Both.refl (x : Except ε α) : Both (· = ·) x x :=
  fun _ _ ha hb => Except.ok.inj (ha.symm.trans hb)

theorem Both.ok {a : α} {b : β} (h : R a b) : Both R (.ok a : Except ε α) (.ok b : Except ε β) := by
  rintro _ _ ⟨⟩ ⟨⟩
  exact h

theorem Both.error_left {e : ε} {y : Except ε β} : Both R (.error e) y := by
  rintro _ _ ⟨⟩

theorem Both.error_right {x : Except ε α} {e : ε} : Both R x (.error e) := by
  rintro _ _ _ ⟨⟩

theorem Both.bind {x : Except ε α} {y : Except ε β} {f : α → Except ε γ} {g : β → Except ε δ}
    (h : Both R x y) (hfg : ∀ a b, R a b → Both S (f a) (g b)) : Both S (x >>= f) (y >>= g) := by
  intro c d hc hd
  obtain ⟨a, hx, hc⟩ := ok_of_bind hc
  obtain ⟨b, hy, hd⟩ := ok_of_bind hd
  exact hfg a b (h a b hx hy) c d hc hd

theorem Both.map {x : Except ε α} {y : Except ε β} {f : α → γ} {g : β → δ} (h : Both R x y)
    (hfg : ∀ a b, R a b → S (f a) (g b)) : Both S (x.map f) (y.map g) := by
  cases x with
  | error e => exact .error_left
  | ok a =>
    cases y with
    | error e => exact .error_right
    | ok b => exact .ok (hfg a b (h a b rfl rfl))

/-- Related entries, one after the other, keep related states related. -/
theorem Both.foldlM {σ τ : Type} {R : σ → τ → Prop} {T : α → β → Prop} {f : σ → α → Except ε σ}
    {g : τ → β → Except ε τ} (step : ∀ {s t x y}, R s t → T x y → Both R (f s x) (g t y))
    {xs : List α} {ys : List β} (hxy : List.Forall₂ T xs ys) {s : σ} {t : τ} (hst : R s t) :
    Both R (xs.foldlM f s) (ys.foldlM g t) := by
  induction hxy generalizing s t with
  | nil => exact .ok hst
  | cons hxy _ ih =>
    rw [List.foldlM_cons, List.foldlM_cons]
    exact (step hst hxy).bind fun _ _ h => ih h

end Both

section Conditions

variable {c : Column} {p q : Params}

theorem length_of_coerceAll {kind : ColumnKind} {js : List Json} {vs : List SqlValue}
    (h : coerceAll kind js = .ok vs) : vs.length = js.length := by
  induction js generalizing vs with
  | nil =>
    cases h
    rfl
  | cons j js ih =>
    obtain ⟨v, -, h⟩ := ok_of_bind h
    obtain ⟨vs', htail, h⟩ := ok_of_bind h
    cases h
    rw [List.length_cons, List.length_cons, ih htail]

/-- The same result, with as many values bound by then. -/
def SameForm {α : Type} (a b : α × Params) : Prop := a.1 = b.1 ∧ a.2.length = b.2.length

theorem sameForm_bind (hlen : p.length = q.length) (v w : SqlValue) :
    SameForm (p.bind v) (q.bind w) := by
  constructor
  · rw [Params.bind_fst, Params.bind_fst, hlen]
  · rw [Params.length_bind, Params.length_bind, hlen]

theorem sameForm_bindAll (hlen : p.length = q.length) {vs ws : List SqlValue}
    (h : vs.length = ws.length) :
    SameForm (p.bindAll vs) (q.bindAll ws) := by
  rw [Params.bindAll_eq, Params.bindAll_eq, hlen, h]
  refine ⟨rfl, ?_⟩
  have hvalues : p.values.length = q.values.length := hlen
  simp [Params.length, hvalues, h]

theorem both_compareWith (hlen : p.length = q.length) (op : BinOp) (v w : Json) :
    Both SameForm (predicate.compareWith c p op v) (predicate.compareWith c q op w) := by
  refine Both.bind (R := fun _ _ => True) (fun _ _ _ _ => trivial) fun a b _ => .ok ?_
  obtain ⟨hparam, hcount⟩ := sameForm_bind hlen a b
  exact ⟨congrArg (Expr.binary op c.comparable) hparam, hcount⟩

/-- The condition that a column is among the values of a list, or is not. -/
def membership (c : Column) (negated : Bool) (items : List Json) (params : Params) :
    Except ValueFault (Expr × Params) := do
  let (bound, params) := params.bindAll (← coerceAll c.kind items)
  return (.inList c.comparable bound negated, params)

theorem both_membership (hlen : p.length = q.length) (negated : Bool) {xs ys : List Json}
    (h : xs.length = ys.length) :
    Both SameForm (membership c negated xs p) (membership c negated ys q) := by
  have hcoerced : Both (fun vs ws => vs.length = ws.length) (coerceAll c.kind xs)
      (coerceAll c.kind ys) := by
    intro vs ws hvs hws
    rw [length_of_coerceAll hvs, length_of_coerceAll hws, h]
  refine hcoerced.bind fun vs ws hvw => .ok ?_
  obtain ⟨hbound, hcount⟩ := sameForm_bindAll hlen hvw
  exact ⟨congrArg (Expr.inList c.comparable · negated) hbound, hcount⟩

/-- Equality asks of a null whether there is a value, and compares with everything else. -/
theorem both_equality (hlen : p.length = q.length) {op : Operator} (comparison : BinOp)
    (negated : Bool) (null : ∀ p, predicate c op .null p = .ok (.isNull c.expr negated, p))
    (other : ∀ p v, v ≠ .null → predicate c op v p = predicate.compareWith c p comparison v)
    {v w : Json} (h : v = .null ↔ w = .null) :
    Both SameForm (predicate c op v p) (predicate c op w q) := by
  by_cases hv : v = .null
  · obtain rfl := hv
    obtain rfl := h.1 rfl
    rw [null, null]
    exact .ok ⟨rfl, hlen⟩
  · have hw : w ≠ .null := fun hw => hv (h.2 hw)
    rw [other p v hv, other q w hw]
    exact both_compareWith hlen comparison v w

/-- Lists of one length bind as many values. -/
theorem both_list (hlen : p.length = q.length) {op : Operator} (negated : Bool)
    (list : ∀ p xs, predicate c op (.arr xs) p = membership c negated xs p)
    (other : ∀ p v, (∀ xs, v ≠ .arr xs) → predicate c op v p = .error .notList) {v w : Json}
    (h : ∀ xs ys, v = .arr xs → w = .arr ys → xs.length = ys.length) :
    Both SameForm (predicate c op v p) (predicate c op w q) := by
  by_cases hv : ∃ xs, v = .arr xs
  · by_cases hw : ∃ ys, w = .arr ys
    · obtain ⟨xs, rfl⟩ := hv
      obtain ⟨ys, rfl⟩ := hw
      rw [list, list]
      exact both_membership hlen negated (h xs ys rfl rfl)
    · rw [other q w fun ys hy => hw ⟨ys, hy⟩]
      exact .error_right
  · rw [other p v fun xs hx => hv ⟨xs, hx⟩]
    exact .error_left

/-- A range has two bounds, whatever they are. -/
theorem both_range (hlen : p.length = q.length) (v w : Json) :
    Both SameForm (predicate c .between v p) (predicate c .between w q) := by
  have pair {p : Params} {v : Json} {r : Expr × Params} (h : predicate c .between v p = .ok r) :
      ∃ low high, r = (.between c.comparable (p.bind low).1 ((p.bind low).2.bind high).1 false,
        ((p.bind low).2.bind high).2) := by
    unfold predicate at h
    split at h <;> try contradiction
    obtain ⟨low, -, h⟩ := ok_of_bind h
    obtain ⟨high, -, h⟩ := ok_of_bind h
    cases h
    exact ⟨low, high, rfl⟩
  intro a b ha hb
  obtain ⟨low, high, rfl⟩ := pair ha
  obtain ⟨low', high', rfl⟩ := pair hb
  obtain ⟨hlow, hmid⟩ := sameForm_bind hlen low low'
  obtain ⟨hhigh, hend⟩ := sameForm_bind hmid high high'
  refine ⟨?_, hend⟩
  simp only [hlow, hhigh]

theorem both_contains (hlen : p.length = q.length) (v w : Json) :
    Both SameForm (predicate c .contains v p) (predicate c .contains w q) := by
  have pattern {p : Params} {v : Json} {r : Expr × Params} (h : predicate c .contains v p = .ok r) :
      ∃ s, r = (.like c.comparable (p.bind s).1 '\\' true, (p.bind s).2) := by
    unfold predicate at h
    split at h <;> try contradiction
    split at h <;> try contradiction
    split at h <;> try contradiction
    cases h
    exact ⟨_, rfl⟩
  intro a b ha hb
  obtain ⟨s, rfl⟩ := pattern ha
  obtain ⟨t, rfl⟩ := pattern hb
  obtain ⟨hparam, hcount⟩ := sameForm_bind hlen s t
  exact ⟨congrArg (Expr.like c.comparable · '\\' true) hparam, hcount⟩

/-- Filters of one operator have the same condition, if their values are alike. -/
theorem both_predicate (hlen : p.length = q.length) {op : Operator} {v w : Json}
    (hnull : op = .eq ∨ op = .neq → (v = .null ↔ w = .null))
    (hlist : op = .isIn ∨ op = .notIn → ∀ xs ys, v = .arr xs → w = .arr ys →
      xs.length = ys.length) :
    Both SameForm (predicate c op v p) (predicate c op w q) := by
  cases op with
  | eq =>
    refine both_equality hlen .eq false (fun _ => rfl) (fun p v hv => ?_) (hnull (.inl rfl))
    cases v with
    | null => exact absurd rfl hv
    | _ => rfl
  | neq =>
    refine both_equality hlen .ne true (fun _ => rfl) (fun p v hv => ?_) (hnull (.inr rfl))
    cases v with
    | null => exact absurd rfl hv
    | _ => rfl
  | gt => exact both_compareWith hlen .gt v w
  | gte => exact both_compareWith hlen .ge v w
  | lt => exact both_compareWith hlen .lt v w
  | lte => exact both_compareWith hlen .le v w
  | isIn =>
    refine both_list hlen false (fun _ _ => rfl) (fun p v hv => ?_) (hlist (.inl rfl))
    cases v with
    | arr xs => exact absurd rfl (hv xs)
    | _ => rfl
  | notIn =>
    refine both_list hlen true (fun _ _ => rfl) (fun p v hv => ?_) (hlist (.inr rfl))
    cases v with
    | arr xs => exact absurd rfl (hv xs)
    | _ => rfl
  | between => exact both_range hlen v w
  | contains => exact both_contains hlen v w

theorem sameForm_windowPredicates {w w' : Timeframe} (hw : w.Alike w') (time : Column)
    {p q : Params} (hlen : p.length = q.length) :
    SameForm (windowPredicates time w p) (windowPredicates time w' q) := by
  have bound (op : BinOp) {t t' : Option Timestamp} (ht : t.isSome = t'.isSome) {p q : Params}
      (hlen : p.length = q.length) :
      SameForm (windowPredicates.bound time op t p) (windowPredicates.bound time op t' q) := by
    cases t with
    | none =>
      cases t' with
      | none => exact ⟨rfl, hlen⟩
      | some t' => cases ht
    | some t =>
      cases t' with
      | none => cases ht
      | some t' =>
        obtain ⟨hparam, hcount⟩ := sameForm_bind hlen (.timestamp t) (.timestamp t')
        exact ⟨congrArg (fun e => [Expr.binary op time.comparable e]) hparam, hcount⟩
  obtain ⟨hfirst, hmid⟩ := bound .ge hw.start hlen
  obtain ⟨hsecond, hend⟩ := bound .le hw.stop hmid
  exact ⟨congrArg₂ (· ++ ·) hfirst hsecond, hend⟩

end Conditions

section Scopes

variable {p q : Params}

theorem sameForm_bindIds (hlen : p.length = q.length) {ids ids' : IdSet}
    (h : ids.toList.length = ids'.toList.length) :
    SameForm (Scope.bindIds p ids) (Scope.bindIds q ids') :=
  sameForm_bindAll hlen (by rw [List.length_map, List.length_map, h])

theorem isEmpty_eq_of_length_eq {ids ids' : IdSet} (h : ids.toList.length = ids'.toList.length) :
    ids.isEmpty = ids'.isEmpty := by
  unfold IdSet.isEmpty
  rw [Bool.eq_iff_iff, List.isEmpty_iff_length_eq_zero, List.isEmpty_iff_length_eq_zero, h]

theorem sameForm_byCustomer (hlen : p.length = q.length) {ids ids' : IdSet}
    (h : ids.toList.length = ids'.toList.length) :
    SameForm (Scope.byCustomer ids p) (Scope.byCustomer ids' q) := by
  obtain ⟨hbound, hcount⟩ := sameForm_bindIds hlen h
  unfold Scope.byCustomer
  rw [isEmpty_eq_of_length_eq h]
  split
  · exact ⟨rfl, hlen⟩
  · exact ⟨congrArg (fun es => some (Expr.inList customerColumn.expr es false)) hbound, hcount⟩

theorem sameForm_byCase (hlen : p.length = q.length) {ids ids' : IdSet}
    (h : ids.toList.length = ids'.toList.length) :
    SameForm (Scope.byCase ids p) (Scope.byCase ids' q) := by
  obtain ⟨hbound, hcount⟩ := sameForm_bindIds hlen h
  unfold Scope.byCase
  rw [isEmpty_eq_of_length_eq h]
  split
  · exact ⟨rfl, hlen⟩
  · exact ⟨congrArg (fun es => some (Expr.inQuery rowColumn.expr (Scope.linkedRows es) false))
      hbound, hcount⟩

theorem sameForm_restriction (hlen : p.length = q.length)
    {customers customers' cases cases' : IdSet}
    (hcustomers : customers.toList.length = customers'.toList.length)
    (hcases : cases.toList.length = cases'.toList.length) :
    SameForm (Scope.restriction customers cases p) (Scope.restriction customers' cases' q) := by
  obtain ⟨hcustomer, hmid⟩ := sameForm_byCustomer hlen hcustomers
  obtain ⟨hcase, hend⟩ := sameForm_byCase hmid hcases
  unfold Scope.restriction
  dsimp only
  rw [hcustomer, hcase]
  split <;> exact ⟨rfl, hend⟩

end Scopes

end Plan

end IncidentBoard
