import IncidentBoard.Plan.Compile
import IncidentBoard.Proofs.Plan.Condition
import IncidentBoard.Proofs.Schema.Registered
import Mathlib.Logic.Relation

/-! What one entry of a definition can do to a draft, and the drafts that a definition leads to. -/
namespace IncidentBoard.Plan

open Sql Widget Schema

namespace Draft

/-- The label may be the alias of one more output. -/
structure Free (d : Draft) (label : String) : Prop where
  valid : isAlias label
  fresh : label ∉ d.aliases

/-- The filter of an aggregated field, if it has one: its condition, and the draft with its table
joined and its values bound. -/
inductive Filtered (d : Draft) : Option Expr → Draft → Prop
  | all : d.Filtered none d
  | where' {c : Column} {e : Expr} {params : Params} (hc : c ∈ columns)
      (h : Condition c d.params e params) :
    d.Filtered (some e) { d.requireTable c.table with params }

/-- The filter that a field has, its condition, and the draft after it. -/
inductive FilteredBy (d : Draft) : Option Widget.Filter → Option Expr → Draft → Prop
  | all : d.FilteredBy none none d
  | where' {f : Widget.Filter} {e : Expr} {d' : Draft} (h : d.filter f = .ok (e, d')) :
    d.FilteredBy (some f) (some e) d'

/-- Fields, groups and the axis are outputs; filters and the bounds of the window are conditions. -/
inductive Entry
  | output | condition

/-- What one entry of a definition does to a draft. -/
inductive Step : Entry → Draft → Draft → Prop
  /-- A column that is grouped by already. -/
  | again {d : Draft} {c : Column} (hc : c ∈ columns)
      (h : c ∈ d.grouped ∨ d.bucket.isSome ∧ c = d.timeColumn ∧ d.axis.isSome) :
      Step .output d (d.requireTable c.table)
  | group {d : Draft} {c : Column} {label : String} (hc : c ∈ columns) (hnew : c ∉ d.grouped)
      (hplain : d.bucket = none ∨ c ≠ d.timeColumn) (hl : d.Free label) :
      Step .output d { d.requireTable c.table with
        aliases := d.aliases ++ [label]
        grouped := d.grouped ++ [c]
        selects := d.selects ++ [⟨c.expr, label, .group, some c.kind⟩] }
  | axis {d : Draft} {b : Bucket} {label : String} (hc : d.timeColumn ∈ columns)
      (hb : d.bucket = some b)
      (hnone : d.axis = none) (hl : d.Free label) :
      Step .output d { d.requireTable d.timeColumn.table with
        aliases := d.aliases ++ [label]
        axis := some ⟨.bucket d.timeColumn.expr b, label, .group, some .timestamp⟩ }
  /-- Aggregates come before all conditions on rows. -/
  | value {d d' : Draft} {c : Column} {label : String} {a : Aggregation} {condition : Option Expr}
      {e : Expr} (hc : c ∈ columns) (hp : d.predicates = [])
      (hf : (d.requireTable c.table).Filtered condition d')
      (he : aggregate? a c.expr condition = some e) (hl : d.Free label) :
      Step .output d { d' with
        aliases := d.aliases ++ [label]
        selects := d.selects ++ [⟨e, label, .value, none⟩] }
  | condition {d : Draft} {c : Column} {e : Expr} {params : Params} (hc : c ∈ columns)
      (h : Condition c d.params e params) :
      Step .condition d { d.requireTable c.table with predicates := d.predicates ++ [e], params }

def Reaches : Draft → Draft → Prop := Relation.ReflTransGen fun d d' => ∃ entry, Step entry d d'

theorem Step.reaches {entry : Entry} {d d' : Draft} (h : Step entry d d') : Reaches d d' :=
  .single ⟨entry, h⟩

theorem Step.predicates_eq {d d' : Draft} (h : Step .output d d') :
    d'.predicates = d.predicates := by
  cases h with
  | value _ _ hf => cases hf <;> rfl
  | _ => rfl

theorem Step.timeColumn_eq {entry : Entry} {d d' : Draft} (h : Step entry d d') :
    d'.timeColumn = d.timeColumn := by
  cases h with
  | value _ _ hf => cases hf <;> rfl
  | _ => rfl

/-- What every entry keeps holds of all drafts that are reached. -/
theorem Reaches.keeps {P : Draft → Prop} (step : ∀ {entry d d'}, Step entry d d' → P d → P d')
    {d d' : Draft} (h : Reaches d d') (hd : P d) : P d' := by
  induction h with
  | refl => exact hd
  | tail _ hs ih =>
    obtain ⟨entry, hs⟩ := hs
    exact step hs ih

theorem addJoins_self {joins steps : List JoinStep}
    (h : ∀ s ∈ steps, joins.any (·.table == s.table)) :
    addJoins joins steps = joins := by
  induction steps with
  | nil => rfl
  | cons s steps ih =>
    rw [addJoins, List.foldl_cons, if_pos (h s List.mem_cons_self)]
    exact ih fun x hx => h x (List.mem_cons_of_mem _ hx)

theorem any_addJoins {joins steps : List JoinStep} {table : String}
    (h : joins.any (·.table == table)) :
    (addJoins joins steps).any (·.table == table) := by
  induction steps generalizing joins with
  | nil => exact h
  | cons s steps ih =>
    rw [addJoins, List.foldl_cons]
    refine ih ?_
    split
    · exact h
    · rw [List.any_append, h, Bool.true_or]

/-- All steps of a path are joined once it is required. -/
theorem any_addJoins_of_mem {joins steps : List JoinStep} {s : JoinStep} (h : s ∈ steps) :
    (addJoins joins steps).any (·.table == s.table) := by
  induction steps generalizing joins with
  | nil => cases h
  | cons x steps ih =>
    rw [addJoins, List.foldl_cons]
    rcases List.mem_cons.1 h with rfl | h
    · refine any_addJoins ?_
      split
      · assumption
      · simp
    · exact ih h

theorem requireTable_idem (d : Draft) (table : String) :
    (d.requireTable table).requireTable table = d.requireTable table := by
  unfold requireTable
  rw [addJoins_self fun s hs => any_addJoins_of_mem hs]

theorem claimAlias_ok {d d' : Draft} {label : String} (h : d.claimAlias label = .ok d') :
    d.Free label ∧ d' = { d with aliases := d.aliases ++ [label] } := by
  unfold claimAlias at h
  split at h
  · cases h
  · split at h
    · cases h
    · next hv hf =>
      cases h
      exact ⟨⟨by simpa using hv, by simpa using hf⟩, rfl⟩

/-- A filter that compiles is one of a resolved column with a known operator. -/
theorem filter_predicate {d d' : Draft} {f : Filter} {e : Expr} (h : d.filter f = .ok (e, d')) :
    ∃ c op params, resolve f.table f.column = .ok c ∧ Operator.ofName? f.operator = some op ∧
      predicate c op f.value d.params = .ok (e, params) ∧
        d' = { d.requireTable c.table with params } := by
  obtain ⟨c, hc, h⟩ := ok_of_bind h
  split at h
  · cases h
  · next op hop =>
    split at h
    · next hp =>
      cases h
      exact ⟨c, op, _, hc, hop, hp, rfl⟩
    · cases h

theorem filter_ok {d d' : Draft} {f : Filter} {e : Expr} (h : d.filter f = .ok (e, d')) :
    ∃ c ∈ columns, ∃ params, Condition c d.params e params ∧
      d' = { d.requireTable c.table with params } := by
  obtain ⟨c, op, params, hc, -, hp, rfl⟩ := filter_predicate h
  exact ⟨c, mem_columns_of_resolve hc, params, condition_of_predicate hp, rfl⟩

theorem setAxis_ok {d d' : Draft} {b : Bucket} {label : String} (h : d.setAxis b label = .ok d') :
    d.Free label ∧ d' = { d.requireTable d.timeColumn.table with
      aliases := d.aliases ++ [label]
      axis := some ⟨.bucket d.timeColumn.expr b, label, .group, some .timestamp⟩ } := by
  obtain ⟨d₁, hl, h⟩ := ok_of_bind h
  obtain ⟨hfree, rfl⟩ := claimAlias_ok hl
  cases h
  exact ⟨⟨hfree.valid, hfree.fresh⟩, rfl⟩

section Group

variable {P : Draft → Prop} {d d' : Draft} {c : Column} {label : String}

theorem addPlain_cases (again : c ∈ d.grouped → P (d.requireTable c.table))
    (group : c ∉ d.grouped → d.Free label → P { d.requireTable c.table with
      aliases := d.aliases ++ [label]
      grouped := d.grouped ++ [c]
      selects := d.selects ++ [⟨c.expr, label, .group, some c.kind⟩] })
    (h : addGroup.addPlain (d.requireTable c.table) c label = .ok d') : P d' := by
  unfold addGroup.addPlain at h
  split at h
  · next hg =>
    cases h
    exact again (List.contains_iff_mem.1 hg)
  · next hg =>
    obtain ⟨d₁, hl, h⟩ := ok_of_bind h
    obtain ⟨hfree, rfl⟩ := claimAlias_ok hl
    cases h
    exact group (by simpa [requireTable] using hg) ⟨hfree.valid, hfree.fresh⟩

/-- What grouping by a column comes to. -/
theorem addGroup_cases
    (again : c ∈ d.grouped ∨ d.bucket.isSome ∧ c = d.timeColumn ∧ d.axis.isSome →
      P (d.requireTable c.table))
    (group : c ∉ d.grouped → (d.bucket = none ∨ c ≠ d.timeColumn) → d.Free label →
      P { d.requireTable c.table with
        aliases := d.aliases ++ [label]
        grouped := d.grouped ++ [c]
        selects := d.selects ++ [⟨c.expr, label, .group, some c.kind⟩] })
    (axis : ∀ b, c = d.timeColumn → d.bucket = some b → d.axis = none → d.Free label →
      P { d.requireTable d.timeColumn.table with
        aliases := d.aliases ++ [label]
        axis := some ⟨.bucket d.timeColumn.expr b, label, .group, some .timestamp⟩ })
    (h : (d.requireTable c.table).addGroup c label = .ok d') : P d' := by
  unfold addGroup at h
  split at h
  · next b hb =>
    split at h
    · next htime =>
      replace hb : d.bucket = some b := hb
      replace htime : c = d.timeColumn := htime
      subst htime
      split at h
      · next hnone =>
        obtain ⟨hfree, rfl⟩ := setAxis_ok h
        have haxis := axis b rfl hb (Option.isNone_iff_eq_none.1 hnone) ⟨hfree.valid, hfree.fresh⟩
        rw [← requireTable_idem] at haxis
        exact haxis
      · next hsome =>
        cases h
        exact again (.inr ⟨by simp [hb], rfl, by
          simpa [requireTable, Option.isSome_iff_ne_none] using hsome⟩)
    · next htime =>
      exact addPlain_cases (fun hg => again (.inl hg)) (fun hg => group hg (.inr htime)) h
  · next hb => exact addPlain_cases (fun hg => again (.inl hg)) (fun hg => group hg (.inl hb)) h

theorem addGroup_step (hc : c ∈ columns) (h : (d.requireTable c.table).addGroup c label = .ok d') :
    Step .output d d' := by
  refine addGroup_cases (P := Step .output d) (.again hc) (.group hc)
    (fun b htime hb hnone hl => ?_) h
  exact .axis (htime ▸ hc) hb hnone hl

end Group

section Aggregate

variable {d d' : Draft} {c : Column} {label : String} {a : Aggregation}

/-- The condition of an aggregated field, if it has a filter. -/
def filterBy (d : Draft) : Option Filter → Except DefinitionError (Option Expr × Draft)
  | none => .ok (none, d)
  | some f => (d.filter f).map fun (e, d) => (some e, d)

/-- The last part of an aggregated field, after its filter. -/
def addValue (d : Draft) (c : Column) (label : String) (a : Aggregation) (condition : Option Expr) :
    Except DefinitionError Draft :=
  match aggregate? a c.expr condition with
  | none => .error (.ratioRequiresFilter label)
  | some e => do
    let d ← d.claimAlias label
    return { d with selects := d.selects ++ [⟨e, label, .value, none⟩] }

theorem addAggregate_eq (d : Draft) (c : Column) (label : String) (a : Aggregation)
    (f : Option Filter) :
    d.addAggregate c label a f =
      if (a = .sum ∨ a = .avg) ∧ !c.kind.isNumeric then .error (.nonNumericColumn a c.path)
      else d.filterBy f >>= fun r => r.2.addValue c label a r.1 := by
  unfold addAggregate
  by_cases hn : (a = .sum ∨ a = .avg) ∧ (!c.kind.isNumeric) = true
  · rw [if_pos hn, if_pos hn]
    rfl
  · rw [if_neg hn, if_neg hn]
    cases f <;> rfl

theorem addValue_ok {d₁ : Draft} {condition : Option Expr} (hf : d.Filtered condition d₁)
    (h : d₁.addValue c label a condition = .ok d') :
    ∃ e, aggregate? a c.expr condition = some e ∧ d.Free label ∧ d' = { d₁ with
      aliases := d.aliases ++ [label]
      selects := d.selects ++ [⟨e, label, .value, none⟩] } := by
  have hsame : d₁.aliases = d.aliases ∧ d₁.selects = d.selects := by
    cases hf <;> exact ⟨rfl, rfl⟩
  unfold addValue at h
  split at h
  · cases h
  · next e he =>
    obtain ⟨d₂, hl, h⟩ := ok_of_bind h
    obtain ⟨hfree, rfl⟩ := claimAlias_ok hl
    cases h
    rw [← hsame.1, ← hsame.2]
    exact ⟨e, he, ⟨hfree.valid, hsame.1 ▸ hfree.fresh⟩, rfl⟩

theorem FilteredBy.filtered {d₁ : Draft} {f : Option Filter} {condition : Option Expr}
    (h : d.FilteredBy f condition d₁) : d.Filtered condition d₁ ∧ condition.isSome = f.isSome := by
  cases h with
  | all => exact ⟨.all, rfl⟩
  | where' hfilter =>
    obtain ⟨c, hc, params, hcond, rfl⟩ := filter_ok hfilter
    exact ⟨.where' hc hcond, rfl⟩

theorem filterBy_ok {d₁ : Draft} {f : Option Filter} {condition : Option Expr}
    (h : d.filterBy f = .ok (condition, d₁)) : d.FilteredBy f condition d₁ := by
  cases f with
  | none =>
    cases h
    exact .all
  | some f =>
    obtain ⟨⟨e, d₂⟩, hfilter, hpair⟩ := ok_of_map h
    obtain ⟨rfl, rfl⟩ := Prod.mk.inj hpair
    exact .where' hfilter

/-- An aggregated field has the condition of its filter, if it has a filter. -/
theorem addAggregate_filteredBy {f : Option Filter} (h : d.addAggregate c label a f = .ok d') :
    ∃ condition d₁ e, d.FilteredBy f condition d₁ ∧
      aggregate? a c.expr condition = some e ∧ d.Free label ∧ d' = { d₁ with
        aliases := d.aliases ++ [label]
        selects := d.selects ++ [⟨e, label, .value, none⟩] } := by
  rw [addAggregate_eq] at h
  split at h
  · cases h
  · obtain ⟨⟨condition, d₁⟩, hf, h⟩ := ok_of_bind h
    have hby : d.FilteredBy f condition d₁ := filterBy_ok hf
    obtain ⟨e, he⟩ := addValue_ok hby.filtered.1 h
    exact ⟨condition, d₁, e, hby, he⟩

theorem addAggregate_ok {f : Option Filter} (h : d.addAggregate c label a f = .ok d') :
    ∃ condition d₁ e, d.Filtered condition d₁ ∧ condition.isSome = f.isSome ∧
      aggregate? a c.expr condition = some e ∧ d.Free label ∧ d' = { d₁ with
        aliases := d.aliases ++ [label]
        selects := d.selects ++ [⟨e, label, .value, none⟩] } := by
  obtain ⟨condition, d₁, e, hby, he⟩ := addAggregate_filteredBy h
  exact ⟨condition, d₁, e, hby.filtered.1, hby.filtered.2, he⟩

theorem addAggregate_step {f : Option Filter} (hc : c ∈ columns) (hp : d.predicates = [])
    (h : (d.requireTable c.table).addAggregate c label a f = .ok d') : Step .output d d' := by
  obtain ⟨condition, d₁, e, hf, -, he, hl, rfl⟩ := addAggregate_ok h
  exact .value hc hp hf he ⟨hl.valid, hl.fresh⟩

end Aggregate

/-- A field is a group, or an aggregate that is known by its name. -/
theorem addField_ok {d d' : Draft} {f : Field} (h : d.addField f = .ok d') :
    ∃ c, resolve f.table f.column = .ok c ∧
      (f.aggregation = none ∧ f.filter = none ∧
          (d.requireTable c.table).addGroup c (f.label.getD c.defaultAlias) = .ok d' ∨
        ∃ name a, f.aggregation = some name ∧ Aggregation.ofName? name = some a ∧
          (d.requireTable c.table).addAggregate c (f.label.getD c.defaultAlias) a f.filter =
            .ok d') := by
  obtain ⟨c, hc, h⟩ := ok_of_bind h
  refine ⟨c, hc, ?_⟩
  split at h
  · next hnone =>
    split at h
    · cases h
    · next hfilter => exact .inl ⟨hnone, by simpa using hfilter, h⟩
  · next name hname =>
    split at h
    · cases h
    · next a ha => exact .inr ⟨name, a, hname, ha, h⟩

theorem addField_step {d d' : Draft} {f : Field} (hp : d.predicates = [])
    (h : d.addField f = .ok d') :
    Step .output d d' := by
  obtain ⟨c, hc, ⟨-, -, h⟩ | ⟨name, a, -, -, h⟩⟩ := addField_ok h
  · exact addGroup_step (mem_columns_of_resolve hc) h
  · exact addAggregate_step (mem_columns_of_resolve hc) hp h

theorem addReference_step {d d' : Draft} {reference : String}
    (h : d.addReference reference = .ok d') :
    Step .output d d' := by
  obtain ⟨c, hc, h⟩ := ok_of_bind h
  exact addGroup_step (mem_columns_of_resolveReference hc) h

theorem addFilter_step {d d' : Draft} {f : Filter} (h : d.addFilter f = .ok d') :
    Step .condition d d' := by
  obtain ⟨⟨e, d₁⟩, hf, h⟩ := ok_of_bind h
  obtain ⟨c, hc, params, hcond, rfl⟩ := filter_ok hf
  cases h
  exact .condition hc hcond

def addBound (d : Draft) (op : BinOp) (t : Timestamp) : Draft :=
  { d.requireTable d.timeColumn.table with
    predicates := d.predicates ++
      [.binary op d.timeColumn.comparable (d.params.bind (.timestamp t)).1]
    params := (d.params.bind (.timestamp t)).2 }

/-- A bound of the window is a condition on the time column. -/
theorem addBound_step (d : Draft) (hc : d.timeColumn ∈ columns) {op : BinOp} (hop : op.compares)
    (t : Timestamp) :
    Step .condition d (d.addBound op t) := .condition hc (.compare hop _)

theorem requireTable_joins_idem (d : Draft) (table : String) :
    addJoins (addJoins d.joins (joinPath table)) (joinPath table) =
      addJoins d.joins (joinPath table) :=
  congrArg Draft.joins (requireTable_idem d table)

theorem addWindow_eq (d : Draft) (s t : Timestamp) :
    d.addWindow ⟨some s, some t⟩ = (d.addBound .ge s).addBound .le t := by
  simp only [addBound, requireTable, requireTable_joins_idem, List.append_assoc]
  rfl

/-- What every bound keeps, the window keeps. -/
theorem addWindow_keeps {P : Draft → Prop}
    (bound : ∀ {d op t}, op.compares → P d → P (d.addBound op t)) {d : Draft} (hd : P d)
    (w : Timeframe) : P (d.addWindow w) := by
  obtain ⟨start, stop⟩ := w
  cases start with
  | none =>
    cases stop with
    | none => exact hd
    | some t => exact show P (d.addBound .le t) from bound rfl hd
  | some s =>
    have first : P (d.addBound .ge s) := bound rfl hd
    cases stop with
    | none => exact first
    | some t =>
      rw [addWindow_eq]
      exact bound rfl first

theorem addWindow_reaches (d : Draft) (hc : d.timeColumn ∈ columns) (w : Timeframe) :
    Reaches d (d.addWindow w) := by
  refine (addWindow_keeps (P := fun x => x.timeColumn ∈ columns ∧ Reaches d x) (fun hop hx => ?_)
    ⟨hc, .refl⟩ w).2
  exact ⟨hx.1, hx.2.tail ⟨_, addBound_step _ hx.1 hop _⟩⟩

/-- An axis is added if there is to be one and none is there. -/
theorem ensureAxis_ok {d d' : Draft} (h : d.ensureAxis = .ok d') :
    (d' = d ∧ (d.bucket.isSome → d.axis.isSome)) ∨
    ∃ b, d.bucket = some b ∧ d.axis = none ∧ d.Free d.timeColumn.defaultAlias ∧
      d' = { d.requireTable d.timeColumn.table with
        aliases := d.aliases ++ [d.timeColumn.defaultAlias]
        axis := some
          ⟨.bucket d.timeColumn.expr b, d.timeColumn.defaultAlias, .group, some .timestamp⟩ } := by
  unfold ensureAxis at h
  cases hb : d.bucket with
  | none =>
    rw [hb] at h
    cases h
    exact .inl ⟨rfl, fun hsome => by cases hsome⟩
  | some b =>
    rw [hb] at h
    cases haxis : d.axis with
    | none =>
      rw [haxis] at h
      obtain ⟨hfree, rfl⟩ := setAxis_ok h
      exact .inr ⟨b, rfl, rfl, hfree, rfl⟩
    | some s =>
      rw [haxis] at h
      cases h
      exact .inl ⟨rfl, fun _ => rfl⟩

theorem ensureAxis_reaches {d d' : Draft} (hc : d.timeColumn ∈ columns)
    (h : d.ensureAxis = .ok d') :
    Reaches d d' := by
  rcases ensureAxis_ok h with ⟨rfl, -⟩ | ⟨b, hb, hnone, hfree, rfl⟩
  · exact .refl
  · exact (Step.axis hc hb hnone hfree).reaches

section Fold

variable {α : Type} {f : Draft → α → Except DefinitionError Draft} {d d' : Draft}

theorem foldlM_keeps {P : Draft → Prop} {xs : List α}
    (step : ∀ {d x d'}, x ∈ xs → P d → f d x = .ok d' → P d') (hd : P d)
    (h : xs.foldlM f d = .ok d') : P d' := by
  induction xs generalizing d with
  | nil =>
    cases h
    exact hd
  | cons x xs ih =>
    rw [List.foldlM_cons] at h
    obtain ⟨d₁, hx, h⟩ := ok_of_bind h
    exact ih (fun hx' => step (List.mem_cons_of_mem _ hx')) (step List.mem_cons_self hd hx) h

/-- Entries of one kind, one after the other, as long as `P` holds of the draft. -/
theorem foldlM_reaches {P : Draft → Prop} {entry : Entry}
    (keeps : ∀ {d d'}, Step entry d d' → P d → P d')
    (step : ∀ {d x d'}, P d → f d x = .ok d' → Step entry d d') {xs : List α} (hd : P d)
    (h : xs.foldlM f d = .ok d') : Reaches d d' ∧ P d' := by
  refine foldlM_keeps (P := fun x => Reaches d x ∧ P x) (fun _ hx hf => ?_) ⟨.refl, hd⟩ h
  have hs := step hx.2 hf
  exact ⟨hx.1.tail ⟨_, hs⟩, keeps hs hx.2⟩

end Fold

theorem Reaches.timeColumn_eq {d d' : Draft} (h : Reaches d d') : d'.timeColumn = d.timeColumn :=
  h.keeps (P := fun x => x.timeColumn = d.timeColumn) (fun hs hx => hs.timeColumn_eq.trans hx) rfl

end Draft

/-- The draft of a definition before its first entry. -/
def Draft.initial (time : Column) (bucket : Option Bucket) : Draft := { timeColumn := time, bucket }

namespace Draft

variable {d d' : Draft}

/-- Fields are outputs, as long as there are no conditions yet. -/
theorem addFields_reach {fields : List Field} (hp : d.predicates = [])
    (h : fields.foldlM addField d = .ok d') :
    Reaches d d' ∧ d'.predicates = [] :=
  foldlM_reaches (P := fun d => d.predicates = []) (fun hs hp => hs.predicates_eq.trans hp)
    addField_step hp h

theorem references_reach {references : List String}
    (h : references.foldlM addReference d = .ok d') :
    Reaches d d' :=
  (foldlM_reaches (P := fun _ => True) (fun _ _ => trivial)
    (fun _ => addReference_step) trivial h).1

theorem filters_reach {filters : List Filter} (h : filters.foldlM addFilter d = .ok d') :
    Reaches d d' :=
  (foldlM_reaches (P := fun _ => True) (fun _ _ => trivial) (fun _ => addFilter_step) trivial h).1

/-- The fields come before all conditions. -/
theorem fields_reach {fields : List Field} {time : Column} {bucket : Option Bucket}
    (h : fields.foldlM addField (initial time bucket) = .ok d) :
    (initial time bucket).Reaches d ∧ d.predicates = [] := addFields_reach rfl h

end Draft

theorem build_reaches {definition : Definition} {w : Timeframe} {time : Column} {d : Draft}
    (ht : time ∈ columns) (h : build definition w time = .ok d) :
    (Draft.initial time definition.timeBucket).Reaches d := by
  obtain ⟨d₁, hfields, h⟩ := ok_of_bind h
  obtain ⟨d₂, hgroups, h⟩ := ok_of_bind h
  obtain ⟨d₃, hfilters, h⟩ := ok_of_bind h
  have r₁ := (Draft.fields_reach hfields).1
  have r₂ := Draft.references_reach hgroups
  have r₃ := Draft.filters_reach hfilters
  have r := (r₁.trans r₂).trans r₃
  have ht₃ : d₃.timeColumn ∈ columns := by
    rw [Draft.Reaches.timeColumn_eq r]
    exact ht
  have rw := Draft.addWindow_reaches d₃ ht₃ w
  have ht₄ : (d₃.addWindow w).timeColumn ∈ columns := by
    rw [Draft.Reaches.timeColumn_eq rw]
    exact ht₃
  exact (r.trans rw).trans (Draft.ensureAxis_reaches ht₄ h)

theorem timeColumnOf_ok {o : Options} {c : Column} (h : timeColumnOf o = .ok c) :
    c ∈ columns ∧ c.kind = .timestamp := by
  have same {x : Column} (hx : (if x.kind = .timestamp then pure x
      else Except.error (DefinitionError.notTimestampColumn x.path)) = .ok c) :
      x = c ∧ c.kind = .timestamp := by
    split at hx
    · next hkind =>
      cases hx
      exact ⟨rfl, hkind⟩
    · cases hx
  unfold timeColumnOf at h
  split at h
  · obtain ⟨c', hc, h⟩ := ok_of_bind h
    obtain ⟨rfl, hkind⟩ := same h
    exact ⟨mem_columns_of_resolveReference hc, hkind⟩
  · obtain ⟨rfl, hkind⟩ := same (x := defaultTimeColumn) h
    exact ⟨defaultTimeColumn_mem_columns, hkind⟩

theorem timeColumnOf_mem_columns {o : Options} {c : Column} (h : timeColumnOf o = .ok c) :
    c ∈ columns :=
  (timeColumnOf_ok h).1

/-- What is checked of a definition before its entries. -/
structure Passed (definition : Definition) (w : Timeframe) (maxLimit : Nat) (chartType : ChartType)
    (time : Column) (limit : Option Nat) : Prop where
  chartType : definition.chartType = some chartType
  fields : definition.fields ≠ []
  window : w.validate = .ok ()
  time : timeColumnOf definition.options = .ok time
  limit : limitOf definition.options maxLimit = .ok limit

theorem Passed.compile_eq {definition : Definition} {w : Timeframe} {maxLimit : Nat}
    {chartType : ChartType} {time : Column} {limit : Option Nat}
    (h : Passed definition w maxLimit chartType time limit) :
    compile definition w maxLimit = (do
      let d ← build definition w time
      if d.selects.isEmpty then .error .noAggregationOrGrouping
      else .ok (d.finish chartType definition.options.sort limit)) := by
  have hfields : ¬ definition.fields.isEmpty := by simpa using h.fields
  unfold compile
  rw [h.chartType]
  dsimp only
  rw [if_neg hfields, h.window, h.time, h.limit]
  rfl

/-- What a successful compilation has gone through. -/
structure Compiled (definition : Definition) (w : Timeframe) (maxLimit : Nat) (p : QueryPlan)
    (d : Draft) : Prop where
  chartType : definition.chartType = some p.chartType
  fields : definition.fields ≠ []
  window : w.validate = .ok ()
  time : timeColumnOf definition.options = .ok d.timeColumn
  limit : limitOf definition.options maxLimit = .ok p.limit
  build : build definition w d.timeColumn = .ok d
  selects : d.selects ≠ []
  finish : p = d.finish p.chartType definition.options.sort p.limit

theorem Compiled.reaches {definition : Definition} {w : Timeframe} {maxLimit : Nat} {p : QueryPlan}
    {d : Draft} (h : Compiled definition w maxLimit p d) :
    (Draft.initial d.timeColumn definition.timeBucket).Reaches d :=
  build_reaches (timeColumnOf_mem_columns h.time) h.build

theorem Compiled.passed {definition : Definition} {w : Timeframe} {maxLimit : Nat} {p : QueryPlan}
    {d : Draft} (h : Compiled definition w maxLimit p d) :
    Passed definition w maxLimit p.chartType d.timeColumn p.limit :=
  ⟨h.chartType, h.fields, h.window, h.time, h.limit⟩

theorem compiled_of_compile {definition : Definition} {w : Timeframe} {maxLimit : Nat}
    {p : QueryPlan} (h : compile definition w maxLimit = .ok p) :
    ∃ d, Compiled definition w maxLimit p d := by
  unfold compile at h
  split at h
  · cases h
  · next chartType hchart =>
    split at h
    · cases h
    · next hfields =>
      obtain ⟨⟨⟩, hw, h⟩ := ok_of_bind h
      obtain ⟨time, ht, h⟩ := ok_of_bind h
      obtain ⟨limit, hl, h⟩ := ok_of_bind h
      obtain ⟨d, hb, h⟩ := ok_of_bind h
      split at h
      · cases h
      · next hs =>
        cases h
        have htime : d.timeColumn = time :=
          (build_reaches (timeColumnOf_mem_columns ht) hb).timeColumn_eq
        subst htime
        refine ⟨d, ⟨hchart, ?_, hw, ht, hl, hb, ?_, rfl⟩⟩
        · simpa using hfields
        · simpa using hs

end IncidentBoard.Plan
