import IncidentBoard.Proofs.Plan.Nodes
import IncidentBoard.Proofs.Plan.Outline

/-! The tables that a plan joins, against those that its expressions name. -/
namespace IncidentBoard

open Sql Widget Schema Access Plan

namespace Sql

mutual

/-- The tables that the columns of an expression are qualified with, subqueries left out. -/
def Expr.qualifiers : Expr → List (Option String)
  | .column table _ => [table]
  | .literal _ | .param _ => []
  | .binary _ left right => left.qualifiers ++ right.qualifiers
  | .not e | .paren e | .bucket e _ | .timestamp e | .isNull e _ | .inQuery e _ _ => e.qualifiers
  | .call _ _ args => Expr.listQualifiers args
  | .case branches none => Expr.branchQualifiers branches
  | .case branches (some e) => Expr.branchQualifiers branches ++ e.qualifiers
  | .inList e values _ => e.qualifiers ++ Expr.listQualifiers values
  | .between e low high _ => e.qualifiers ++ low.qualifiers ++ high.qualifiers
  | .like e pattern _ _ => e.qualifiers ++ pattern.qualifiers

def Expr.listQualifiers : List Expr → List (Option String)
  | [] => []
  | e :: es => e.qualifiers ++ Expr.listQualifiers es

def Expr.branchQualifiers : List (Expr × Expr) → List (Option String)
  | [] => []
  | (condition, result) :: rest =>
      condition.qualifiers ++ result.qualifiers ++ Expr.branchQualifiers rest

end

@[simp] theorem Expr.listQualifiers_params (ids : List Nat) :
    Expr.listQualifiers (ids.map .param) = [] := by
  induction ids with
  | nil => rfl
  | cons i ids ih => rw [List.map_cons, Expr.listQualifiers, ih]; rfl

/-- The columns of an expression belong to one table. -/
def Expr.Within (table : String) : Expr → Prop
  | .column t _ => t = some table
  | _ => True

/-- A subquery has one table and names no other. -/
def Expr.ClosedQuery : Expr → Prop
  | .inQuery _ q _ =>
      q.joins = [] ∧ ∃ table, q.source = some table ∧ ∀ e ∈ q.exprs, e.All (Within table)
  | _ => True

end Sql

namespace Plan

theorem any_table_iff {joins : List JoinStep} {table : String} :
    joins.any (·.table == table) ↔ table ∈ joins.map (·.table) := by
  simp only [List.any_eq_true, beq_iff_eq, List.mem_map]

/-- What is joined stays joined. -/
theorem reached_left {joins steps : List JoinStep} {table : String}
    (h : table ∈ baseTable :: joins.map (·.table)) :
    table ∈ baseTable :: (addJoins joins steps).map (·.table) := by
  rcases List.mem_cons.1 h with rfl | h
  · exact List.mem_cons_self
  · exact List.mem_cons_of_mem _ (any_table_iff.1 (Draft.any_addJoins (any_table_iff.2 h)))

/-- All tables of a path are joined with it. -/
theorem reached_right {joins steps : List JoinStep} {table : String}
    (h : table ∈ baseTable :: steps.map (·.table)) :
    table ∈ baseTable :: (addJoins joins steps).map (·.table) := by
  rcases List.mem_cons.1 h with rfl | h
  · exact List.mem_cons_self
  · obtain ⟨j, hj, rfl⟩ := List.mem_map.1 h
    exact List.mem_cons_of_mem _ (any_table_iff.1 (Draft.any_addJoins_of_mem hj))

theorem addJoins_append (joins steps : List JoinStep) (j : JoinStep) :
    addJoins joins (steps ++ [j]) =
    if (addJoins joins steps).any (·.table == j.table) then addJoins joins steps
    else addJoins joins steps ++ [j] := List.foldl_append

end Plan

namespace Schema

/-- Steps to tables that are not joined yet, from the base table or one that is. -/
inductive Linked : List JoinStep → Prop
  | nil : Linked []
  | snoc {joins : List JoinStep} {j : JoinStep} (h : Linked joins)
      (hnew : j.table ∉ joins.map (·.table))
    (hleft : j.leftTable ∈ baseTable :: joins.map (·.table)) : Linked (joins ++ [j])

namespace Linked

variable {joins : List JoinStep}

theorem nodup (h : Linked joins) : (joins.map (·.table)).Nodup := by
  induction h with
  | nil => exact List.nodup_nil
  | @snoc joins j h hnew hleft ih =>
    rw [List.map_append]
    refine ih.append (List.nodup_singleton _) fun t ht hj => ?_
    rw [List.mem_singleton.1 hj] at ht
    exact hnew ht

/-- Every step leads on from a table that is there by then. -/
theorem left_mem (h : Linked joins) {before after : List JoinStep} {j : JoinStep}
    (hj : joins = before ++ j :: after) : j.leftTable ∈ baseTable :: before.map (·.table) := by
  induction h generalizing after with
  | nil => simp at hj
  | @snoc joins x h hnew hleft ih =>
    rcases List.eq_nil_or_concat after with rfl | ⟨rest, y, rfl⟩
    · obtain ⟨rfl, hx⟩ := List.append_inj' hj rfl
      cases hx
      exact hleft
    · rw [List.concat_eq_append, ← List.cons_append, ← List.append_assoc] at hj
      exact ih (List.append_inj' hj rfl).1

theorem fromBase (table column key : String) : Linked [fromBase table column key] :=
  snoc nil List.not_mem_nil List.mem_cons_self

theorem path : ∀ t ∈ tables, Linked t.path := by
  have throughLink : Linked [Schema.fromBase linkTable "alert_id" linkRowColumn,
      ⟨"cases", linkTable, linkCaseColumn, "case_id"⟩] :=
    snoc (fromBase _ _ _) (by decide) (by decide)
  simp [tables, nil, fromBase, throughLink]

theorem joinPath (table : String) : Linked (joinPath table) := by
  unfold Schema.joinPath
  split
  · next t ht => exact path t (List.mem_of_find?_eq_some ht)
  · exact nil

theorem addJoins {steps : List JoinStep} (h : Linked joins) (hs : Linked steps) :
    Linked (Plan.addJoins joins steps) := by
  induction hs with
  | nil => exact h
  | @snoc steps j _ _ hleft ih =>
    rw [Plan.addJoins_append]
    split
    · exact ih
    · next hnew =>
      exact snoc ih (fun hj => hnew (Plan.any_table_iff.2 hj)) (Plan.reached_right hleft)

end Linked

end Schema

namespace Column

@[simp] theorem qualifiers_expr (c : Column) : c.expr.qualifiers = [some c.table] := rfl

@[simp] theorem qualifiers_comparable (c : Column) : c.comparable.qualifiers = [some c.table] := by
  unfold comparable
  split <;> rfl

end Column

/-- A scope names columns of alerts. -/
theorem Access.Restriction.eq_base_of_mem {p p' : Params} {customers cases : List Int} {e : Expr}
    (h : Restriction p customers cases e p') {q : Option String} (hq : q ∈ e.qualifiers) :
    q = some baseTable := by
  cases h with
  | nothing => cases hq
  | customers | cases =>
    simpa [Expr.qualifiers, Params.bindAll_eq, customerColumn, rowColumn] using hq
  | both => simpa [Expr.qualifiers, Expr.or, Params.bindAll_eq, customerColumn, rowColumn] using hq

/-- Whether a definition has a field on the table that counts the rows that meet a filter. -/
def Widget.Definition.Counts (definition : Definition) (table : String) : Prop :=
  ∃ f ∈ definition.fields, f.table = table ∧
    f.aggregation.bind Aggregation.ofName? = some .count ∧ f.filter.isSome

namespace Plan

section Qualifiers

variable {c : Column} {p p' : Params} {e : Expr}

theorem Condition.qualifiers_eq (h : Condition c p e p') : e.qualifiers = [some c.table] := by
  cases h <;> simp [Expr.qualifiers, Params.bindAll_eq]

/-- An aggregate names the tables of its condition, and its own unless it counts the rows that meet
one. -/
theorem mem_qualifiers_of_aggregate {a : Aggregation} {condition : Option Expr}
    (h : aggregate? a c.expr condition = some e) {q : Option String} :
    q ∈ e.qualifiers ↔ (∃ x ∈ condition, q ∈ x.qualifiers) ∨
      q = some c.table ∧ (a = .count → condition = none) := by
  cases condition <;> cases a <;> cases h <;>
    simp [Expr.qualifiers, Expr.apply, Expr.ifThen, Expr.listQualifiers, Expr.branchQualifiers,
      Expr.int, Expr.null]

end Qualifiers

/-- The joins reach every table that is named, in order and each once, and are all on the way to a
table that is named, or to one that may be there though nothing names it. -/
structure Covers (joins : List JoinStep) (spare : String → Prop) (named : List (Option String)) :
    Prop where
  linked : Linked joins
  closed : ∀ q ∈ named, ∃ t ∈ baseTable :: joins.map (·.table), q = some t
  needed : ∀ j ∈ joins, ∃ t, (some t ∈ named ∨ spare t) ∧ j ∈ joinPath t

namespace Covers

variable {joins : List JoinStep} {spare : String → Prop} {named named' : List (Option String)}

theorem nil (spare : String → Prop) : Covers [] spare [] := ⟨.nil, by simp, by simp⟩

theorem mem_joinPath_table :
    ∀ c ∈ columns, c.table ∈ baseTable :: (joinPath c.table).map (·.table) := by
  decide +kernel

/-- A table is joined to be named, or because it may be there. -/
theorem addJoins (h : Covers joins spare named) {c : Column} (hc : c ∈ columns)
    (hsub : named ⊆ named') (hnew : ∀ q ∈ named', q ∈ named ∨ q = some c.table)
    (hcolumn : some c.table ∈ named' ∨ spare c.table) :
    Covers (addJoins joins (joinPath c.table)) spare named' := by
  refine ⟨h.linked.addJoins (.joinPath _), fun q hq => ?_, fun j hj => ?_⟩
  · rcases hnew q hq with hq | rfl
    · obtain ⟨t, ht, rfl⟩ := h.closed q hq
      exact ⟨t, reached_left ht, rfl⟩
    · exact ⟨c.table, reached_right (mem_joinPath_table c hc), rfl⟩
  · rcases List.mem_append.1 (addJoins_subset hj) with hj | hj
    · obtain ⟨t, ht, hjt⟩ := h.needed j hj
      exact ⟨t, ht.imp_left fun ht => hsub ht, hjt⟩
    · exact ⟨c.table, hcolumn, hj⟩

theorem join (h : Covers joins spare named) {c : Column} (hc : c ∈ columns)
    (hnamed : ∀ q, q ∈ named' ↔ q ∈ named ∨ q = some c.table) :
    Covers (Plan.addJoins joins (joinPath c.table)) spare named' :=
  h.addJoins hc (fun q hq => (hnamed q).2 (.inl hq)) (fun q hq => (hnamed q).1 hq)
    (.inl ((hnamed _).2 (.inr rfl)))

theorem joinSpare (h : Covers joins spare named) {c : Column} (hc : c ∈ columns)
    (hs : spare c.table) :
    Covers (Plan.addJoins joins (joinPath c.table)) spare named :=
  h.addJoins hc (List.Subset.refl _) (fun _ hq => .inl hq) (.inr hs)

/-- More of the joined tables may be named. -/
theorem more (h : Covers joins spare named) (hsub : named ⊆ named')
    (hnew : ∀ q ∈ named', q ∈ named ∨ ∃ t ∈ baseTable :: joins.map (·.table), q = some t) :
    Covers joins spare named' := by
  refine ⟨h.linked, fun q hq => (hnew q hq).elim (h.closed q) id, fun j hj => ?_⟩
  obtain ⟨t, ht, hjt⟩ := h.needed j hj
  exact ⟨t, ht.imp_left fun ht => hsub ht, hjt⟩

end Covers

namespace Draft

variable {spare : String → Prop} {d d' : Draft} {c : Column} {label : String}

/-- The tables that the columns of the outputs and conditions are qualified with. -/
def named (d : Draft) : List (Option String) :=
  d.outputs.flatMap (·.expr.qualifiers) ++ d.predicates.flatMap Expr.qualifiers

/-- The columns that are grouped by are outputs. -/
theorem Outlined.mem_named (h : d.Outlined) (hc : c ∈ d.grouped) : some c.table ∈ d.named := by
  have hexpr : c.expr ∈ d.grouped.map Column.expr := List.mem_map_of_mem hc
  rw [← h.groups] at hexpr
  obtain ⟨s, hs, hse⟩ := List.mem_map.1 hexpr
  refine List.mem_append_left _ (List.mem_flatMap.2 ⟨s, ?_, ?_⟩)
  · exact List.mem_append_right _ (List.mem_of_mem_filter hs)
  · rw [hse, c.qualifiers_expr]
    exact List.mem_singleton_self _

theorem Outlined.timeColumn_mem_named (h : d.Outlined) (haxis : d.axis.isSome) :
    some d.timeColumn.table ∈ d.named := by
  obtain ⟨s, hs⟩ := Option.isSome_iff_exists.1 haxis
  obtain ⟨b, label, -, rfl⟩ := h.axis s hs
  simp [named, outputs, hs, axisOf, Expr.qualifiers]

/-- What a draft joins is what its outputs and conditions name. -/
def Covered (spare : String → Prop) (d : Draft) : Prop := Covers d.joins spare d.named

theorem covered_setAxis {b : Bucket} (hc : d.timeColumn ∈ columns) (hnone : d.axis = none)
    (h : d.Covered spare) : Covered spare { d.requireTable d.timeColumn.table with
      aliases := d.aliases ++ [label]
      axis := some (axisOf d.timeColumn b label) } := by
  refine h.join hc fun q => ?_
  simp [named, outputs, requireTable, hnone, axisOf, Expr.qualifiers, or_comm]

theorem covered_addGroup (hc : c ∈ columns) (hout : d.Outlined) (h : d.Covered spare)
    (hd : (d.requireTable c.table).addGroup c label = .ok d') : d'.Covered spare := by
  refine addGroup_cases (fun hagain => ?_) (fun _ _ _ => ?_) (fun b htime _ hnone _ => ?_) hd
  · have hmem : some c.table ∈ d.named := by
      rcases hagain with hgrouped | ⟨-, rfl, haxis⟩
      · exact hout.mem_named hgrouped
      · exact hout.timeColumn_mem_named haxis
    exact h.join hc fun q => ⟨.inl, fun hq => hq.elim id fun hq => hq ▸ hmem⟩
  · refine h.join hc fun q => ?_
    simp [named, outputs, requireTable, or_comm, or_left_comm]
  · exact covered_setAxis (htime ▸ hc) hnone h

/-- The table of a field that counts the rows that meet its filter is joined, though nothing may
name it. -/
theorem covered_addAggregate {a : Aggregation} {f : Option Filter} (hc : c ∈ columns)
    (hspare : a = .count → f.isSome → spare c.table) (h : d.Covered spare)
    (hd : (d.requireTable c.table).addAggregate c label a f = .ok d') : d'.Covered spare := by
  obtain ⟨condition, d₁, e, hf, hsome, he, -, rfl⟩ := addAggregate_ok hd
  have hmem (q : Option String) := mem_qualifiers_of_aggregate he (q := q)
  have hnamed (q : Option String) : q ∈ Draft.named { d₁ with
      aliases := d.aliases ++ [label]
      selects := d.selects ++ [⟨e, label, .value, none⟩] } ↔ q ∈ d.named ∨ q ∈ e.qualifiers := by
    have hsame : d₁.axis = d.axis ∧ d₁.predicates = d.predicates := by cases hf <;> exact ⟨rfl, rfl⟩
    simp [named, outputs, hsame, or_comm, or_left_comm]
  cases hf with
  | all => exact h.join hc fun q => (hnamed q).trans (or_congr_right (by simp [hmem]))
  | @where' c' x params hc' hcond =>
    have hx : x.qualifiers = [some c'.table] := hcond.qualifiers_eq
    by_cases hcount : a = .count
    · have hspare := h.joinSpare hc (hspare hcount (by rw [← hsome]; rfl))
      exact hspare.join hc' fun q => (hnamed q).trans (or_congr_right (by simp [hmem, hx, hcount]))
    · have hcolumn : Covers (addJoins d.joins (joinPath c.table)) spare (some c.table :: d.named) :=
        h.join hc fun q => by rw [List.mem_cons, or_comm]
      refine hcolumn.join hc' fun q => (hnamed q).trans ?_
      have he' : q ∈ e.qualifiers ↔ q = some c'.table ∨ q = some c.table := by
        simp [hmem, hx, hcount]
      rw [he', List.mem_cons, ← or_assoc, or_right_comm]
      exact or_congr_left or_comm

theorem covered_addField {f : Field}
    (hspare : f.aggregation.bind Aggregation.ofName? = some .count →
      f.filter.isSome → spare f.table)
    (hout : d.Outlined) (h : d.Covered spare) (hd : d.addField f = .ok d') : d'.Covered spare := by
  obtain ⟨c, hresolve, ⟨-, -, hd⟩ | ⟨name, a, hname, ha, hd⟩⟩ := addField_ok hd
  · exact covered_addGroup (mem_columns_of_resolve hresolve) hout h hd
  · obtain ⟨hc, htable⟩ := resolve_ok hresolve
    refine covered_addAggregate hc (fun hcount hfilter => ?_) h hd
    rw [htable]
    exact hspare (by simp [hname, ha, hcount]) hfilter

theorem Step.covered_condition (hs : Step .condition d d') (h : d.Covered spare) :
    d'.Covered spare := by
  cases hs with
  | condition hc hcond =>
    refine h.join hc fun q => ?_
    simp [named, outputs, requireTable, hcond.qualifiers_eq, or_assoc]

/-- A draft on its way to a plan, with its joins. -/
structure Joined (spare : String → Prop) (d : Draft) : Prop where
  outlined : d.Outlined
  time : d.timeColumn ∈ columns
  covered : d.Covered spare

theorem Joined.step {entry : Entry} (h : d.Joined spare) (hs : Step entry d d')
    (hc : d'.Covered spare) :
    d'.Joined spare := ⟨hs.outlined h.outlined, hs.timeColumn_eq ▸ h.time, hc⟩

theorem joined_initial {time : Column} (ht : time ∈ columns) (bucket : Option Bucket)
    (spare : String → Prop) :
    (Draft.initial time bucket).Joined spare := ⟨outlined_initial _ _, ht, .nil _⟩

theorem joined_addFields {fields : List Field} (hspare : ∀ f ∈ fields,
      f.aggregation.bind Aggregation.ofName? = some .count → f.filter.isSome → spare f.table)
    (hp : d.predicates = []) (h : d.Joined spare) (hd : fields.foldlM addField d = .ok d') :
    d'.Joined spare := by
  refine (foldlM_keeps (P := fun d => d.predicates = [] ∧ d.Joined spare)
    (fun hf hP hd => ?_) ⟨hp, h⟩ hd).2
  have hs := addField_step hP.1 hd
  exact ⟨hs.predicates_eq.trans hP.1,
    hP.2.step hs (covered_addField (hspare _ hf) hP.2.outlined hP.2.covered hd)⟩

theorem Joined.addReference {reference : String} (h : d.Joined spare)
    (hd : d.addReference reference = .ok d') :
    d'.Joined spare := by
  have hs := addReference_step hd
  obtain ⟨c, hc, hd⟩ := ok_of_bind hd
  exact h.step hs (covered_addGroup (mem_columns_of_resolveReference hc) h.outlined h.covered hd)

theorem Joined.condition (h : d.Joined spare) (hs : Step .condition d d') : d'.Joined spare :=
  h.step hs (hs.covered_condition h.covered)

theorem Joined.ensureAxis (h : d.Joined spare) (hd : d.ensureAxis = .ok d') : d'.Covered spare := by
  rcases ensureAxis_ok hd with ⟨rfl, -⟩ | ⟨b, -, hnone, -, rfl⟩
  · exact h.covered
  · exact covered_setAxis h.time hnone h.covered

end Draft

open Draft in
theorem covered_of_build {definition : Definition} {w : Timeframe} {time : Column} {d : Draft}
    (ht : time ∈ columns) (h : build definition w time = .ok d) : d.Covered definition.Counts := by
  obtain ⟨d₁, hfields, h⟩ := ok_of_bind h
  obtain ⟨d₂, hgroups, h⟩ := ok_of_bind h
  obtain ⟨d₃, hfilters, h⟩ := ok_of_bind h
  have h₁ : d₁.Joined definition.Counts :=
    joined_addFields (fun f hf hcount hfilter => ⟨f, hf, rfl, hcount, hfilter⟩) rfl
      (joined_initial ht definition.timeBucket _) hfields
  have h₂ : d₂.Joined definition.Counts :=
    foldlM_keeps (fun _ hd => hd.addReference) h₁ hgroups
  have h₃ : d₃.Joined definition.Counts :=
    foldlM_keeps (fun _ hd hf => hd.condition (addFilter_step hf)) h₂ hfilters
  have h₄ : (d₃.addWindow w).Joined definition.Counts :=
    addWindow_keeps (fun hop hd => hd.condition (addBound_step _ hd.time hop _)) h₃ w
  exact h₄.ensureAxis h

namespace QueryPlan

/-- The expressions of a plan that its joins serve. -/
def exprs (p : QueryPlan) : List Expr := p.selects.map (·.expr) ++ p.groupBy ++ p.predicates

def named (p : QueryPlan) : List (Option String) := p.exprs.flatMap Expr.qualifiers

/-- The joins of a plan against its expressions. Tables of `spare` may be joined though nothing
names them. -/
structure Joined (p : QueryPlan) (spare : String → Prop) : Prop where
  distinct : (p.joins.map (·.table)).Nodup
  ordered : ∀ before j after, p.joins = before ++ j :: after →
    j.leftTable ∈ baseTable :: before.map (·.table)
  closed : ∀ q ∈ p.named, ∃ t ∈ baseTable :: p.joins.map (·.table), q = some t
  subqueries : ∀ e ∈ p.exprs, e.All Expr.ClosedQuery
  needed : ∀ j ∈ p.joins, ∃ t, (some t ∈ p.named ∨ spare t) ∧ j ∈ joinPath t

theorem mem_named_finish (d : Draft) {chartType : ChartType} {sort : Option SortOrder}
    {limit : Option Nat} {q : Option String} :
    q ∈ (d.finish chartType sort limit).named ↔ q ∈ d.named := by
  have hnamed : (d.finish chartType sort limit).named = d.outputs.flatMap (·.expr.qualifiers) ++
      ((d.outputs.filter (·.role == .group)).flatMap (·.expr.qualifiers) ++
        d.predicates.flatMap Expr.qualifiers) := by
    simp only [named, exprs, Draft.finish, Draft.outputs, List.flatMap_append, List.flatMap_map,
      List.append_assoc]
  have hgroups : (d.outputs.filter (·.role == .group)).flatMap (·.expr.qualifiers) ⊆
      d.outputs.flatMap (·.expr.qualifiers) := by
    intro q hq
    obtain ⟨s, hs, hqs⟩ := List.mem_flatMap.1 hq
    exact List.mem_flatMap.2 ⟨s, List.mem_of_mem_filter hs, hqs⟩
  rw [hnamed, Draft.named, List.mem_append, List.mem_append, List.mem_append]
  exact ⟨fun h => h.elim .inl fun h => h.imp_left fun h => hgroups h, fun h => h.imp_right .inr⟩

theorem covers_apply {p : QueryPlan} {spare : String → Prop} (h : Covers p.joins spare p.named)
    (s : Scope) :
    Covers (s.apply p).joins spare (s.apply p).named := by
  rcases s with - | ⟨customers, cases⟩
  · exact h
  · have hr := restriction_restriction customers cases p.params
    have hnamed : ((Scope.scoped customers cases).apply p).named =
        p.named ++ (Scope.restriction customers cases p.params).1.qualifiers := by
      simp [named, exprs, Scope.apply, QueryPlan.addPredicate]
    rw [hnamed]
    refine h.more (List.subset_append_left _ _) fun q hq =>
      (List.mem_append.1 hq).imp_right fun hq => ?_
    exact ⟨baseTable, List.mem_cons_self, hr.eq_base_of_mem hq⟩

end QueryPlan

section Subqueries

theorem AggregateNode.closedQuery {n : Expr} (h : AggregateNode n) : n.ClosedQuery := by
  cases h <;> trivial

theorem Node.closedQuery {n : Expr} (h : Node n) : n.ClosedQuery := by
  cases h with
  | aggregate h => exact h.closedQuery
  | _ => trivial

theorem closedQuery_linkedRows (ids : List Nat) :
    (Expr.inQuery rowColumn.expr (Scope.linkedRows (ids.map .param)) false).ClosedQuery := by
  refine ⟨rfl, linkTable, rfl, fun e he => ?_⟩
  simp only [Scope.linkedRows_exprs, List.mem_cons, List.not_mem_nil, or_false] at he
  rcases he with rfl | rfl
  · exact Expr.all_column.2 rfl
  · refine Expr.all_inList.2 ⟨trivial, Expr.all_column.2 rfl, fun v hv => ?_⟩
    obtain ⟨i, -, rfl⟩ := List.mem_map.1 hv
    exact Expr.all_param.2 trivial

theorem IsRestriction.closedQuery {e : Expr} (h : IsRestriction e) : e.All Expr.ClosedQuery := by
  obtain ⟨p, customers, cases, p', h⟩ := h
  refine h.all ?_ (fun _ _ _ => trivial) (fun _ => trivial) (fun _ _ _ _ => trivial)
    closedQuery_linkedRows ?_
  · exact Expr.all_binary.2 ⟨trivial, Expr.all_literal.2 trivial, Expr.all_literal.2 trivial⟩
  · rintro a b rfl
    trivial

theorem QueryPlan.Sound.closedQuery {p : QueryPlan} (h : p.Sound) :
    ∀ e ∈ p.exprs, e.All Expr.ClosedQuery := by
  have output : ∀ s ∈ p.selects, s.expr.All Expr.ClosedQuery :=
    fun s hs n hn => ((h.outputs s hs).all_node n hn).closedQuery
  intro e he
  rcases List.mem_append.1 he with he | he
  · rw [h.groups] at he
    rcases List.mem_append.1 he with he | he
    · obtain ⟨s, hs, rfl⟩ := List.mem_map.1 he
      exact output s hs
    · obtain ⟨s, hs, rfl⟩ := List.mem_map.1 he
      exact output s (List.mem_of_mem_filter hs)
  · rcases h.predicates e he with hcond | hscope
    · exact fun n hn => (hcond.all_node n hn).closedQuery
    · exact hscope.closedQuery

end Subqueries

/-- The joins of a plan reach every table that its expressions name, in order and each once,
whatever scopes restrict it. No table is joined for nothing, but for that of a field that counts the
rows that meet a filter: its rows are counted though none of its columns is named. -/
theorem joined_of_compile {definition : Definition} {w : Timeframe} {maxLimit : Nat} {p : QueryPlan}
    (h : compile definition w maxLimit = .ok p) (scopes : List Scope) :
    (restrict scopes p).Joined definition.Counts := by
  obtain ⟨d, hc⟩ := compiled_of_compile h
  have hbuild : d.Covered definition.Counts :=
    covered_of_build (timeColumnOf_mem_columns hc.time) hc.build
  have hp : Covers p.joins definition.Counts p.named := by
    rw [hc.finish]
    exact hbuild.more (fun q => (QueryPlan.mem_named_finish d).2)
      fun q hq => .inl ((QueryPlan.mem_named_finish d).1 hq)
  have hcovers := restrict_keeps (P := fun q => Covers q.joins definition.Counts q.named)
    (fun hq => QueryPlan.covers_apply hq _) hp scopes
  exact ⟨hcovers.linked.nodup, fun _ _ _ hj => hcovers.linked.left_mem hj, hcovers.closed,
    ((sound_of_compile h).restrict scopes).closedQuery, hcovers.needed⟩

theorem joined_of_compile_severeShare : ∃ p, compile severeShare sinceMarch 10000 = .ok p ∧
    (restrict [clientScope, .denyAll] p).Joined severeShare.Counts := by
  obtain ⟨p, hp, -⟩ := exists_compile_severeShare
  exact ⟨p, hp, joined_of_compile hp _⟩

/-- How many clients' alerts are severe. -/
def severeClients : Definition where
  chartType := some .number
  fields := [⟨"client", "name", some "n", some "count",
    some ⟨"alerts", "alert_severity_id", "gte", .int 4⟩⟩]

/-- Clients are joined, but the count names their table nowhere. -/
theorem exists_unnamed_severeClients : ∃ p, compile severeClients ⟨none, none⟩ 10000 = .ok p ∧
    ∃ j ∈ p.joins, ∀ t, some t ∈ p.named → j ∉ joinPath t := by
  have h : (compile severeClients ⟨none, none⟩ 10000).map (fun p => (p.joins, p.named)) =
      .ok (joinPath "client", [some "alerts"]) := by
    decide +kernel
  cases hp : compile severeClients ⟨none, none⟩ 10000 with
  | error e =>
    rw [hp] at h
    cases h
  | ok p =>
    rw [hp] at h
    obtain ⟨hjoins, hnamed⟩ := Prod.mk.inj (Except.ok.inj h)
    refine ⟨p, rfl, ⟨"client", "alerts", "alert_customer_id", "client_id"⟩, ?_, fun t ht => ?_⟩
    · rw [hjoins]
      decide
    · rw [hnamed, List.mem_singleton, Option.some_inj] at ht
      rw [ht]
      decide

end Plan

end IncidentBoard
