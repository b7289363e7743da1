import IncidentBoard.Proofs.Plan.Text
import IncidentBoard.Store.Basic
import Mathlib.Data.List.Nodup

/-! The outputs of a compiled plan: their aliases, groups and order, and the axis. -/
namespace IncidentBoard

open Sql Widget Schema Access

/-- Whether an expression is the start of a bucket. -/
def Sql.Expr.isBucket : Expr → Bool
  | .bucket .. => true
  | _ => false

/-- A registered column is known by its table and name. -/
theorem Schema.eq_of_expr_eq {c c' : Column} (hc : c ∈ columns) (hc' : c' ∈ columns)
    (h : c.expr = c'.expr) :
    c = c' := by
  have distinct : (columns.map fun c => (c.table, c.name)).Nodup := by decide
  have hkey : (c.table, c.name) = (c'.table, c'.name) := by
    simpa [Column.expr, Expr.qualified] using h
  exact List.inj_on_of_nodup_map distinct hc hc' hkey

namespace Store

theorem run_ok {σ : Type} {store : Store σ} {p : Plan.QueryPlan} {s : σ} {r : Result}
    (h : (run store p s).1 = .ok r) : ∃ rows, r = resultOf p rows := by
  replace h : (store.fetch (requestOf store.dialect p) s).1.map (resultOf p) = .ok r := h
  cases hrows : (store.fetch (requestOf store.dialect p) s).1 with
  | error e =>
    rw [hrows] at h
    cases h
  | ok rows =>
    rw [hrows] at h
    cases h
    exact ⟨rows, rfl⟩

end Store

namespace Plan

theorem not_isBucket_of_aggregate {a : Aggregation} {c : Column} {condition : Option Expr}
    {e : Expr} (h : aggregate? a c.expr condition = some e) : ¬ e.isBucket := by
  cases condition <;> cases a <;> cases h <;> exact Bool.false_ne_true

namespace Draft

/-- The bucketed time column as an output. -/
def axisOf (time : Column) (b : Bucket) (label : String) : Select :=
  ⟨.bucket time.expr b, label, .group, some .timestamp⟩

/-- Each output has an alias of its own; besides the axis, which is bucketed, exactly the columns
that are grouped by are groups, each once. -/
structure Outlined (d : Draft) : Prop where
  aliases : d.aliases.Nodup
  labels : (d.outputs.map (·.label)).Perm d.aliases
  grouped : d.grouped.Nodup
  registered : ∀ c ∈ d.grouped, c ∈ columns
  groups : (d.selects.filter (·.role == .group)).map (·.expr) = d.grouped.map Column.expr
  axis : ∀ s ∈ d.axis, ∃ b label, d.bucket = some b ∧ s = axisOf d.timeColumn b label
  plain : ∀ s ∈ d.selects, ¬ s.expr.isBucket

theorem outlined_initial (time : Column) (bucket : Option Bucket) :
    (Draft.initial time bucket).Outlined := by
  constructor <;> simp [Draft.initial, Draft.outputs]

theorem Outlined.nodup_claim {d : Draft} (h : d.Outlined) {label : String} (hl : d.Free label) :
    (d.aliases ++ [label]).Nodup := by
  have hdisjoint : d.aliases.Disjoint [label] := by
    intro a ha hb
    rw [List.mem_singleton.1 hb] at ha
    exact hl.fresh ha
  exact h.aliases.append (List.nodup_singleton label) hdisjoint

/-- An output behind all others has an alias behind all others. -/
theorem Outlined.perm_claim {d : Draft} (h : d.Outlined) {s : Select} :
    ((d.axis.toList ++ (d.selects ++ [s])).map (·.label)).Perm (d.aliases ++ [s.label]) := by
  have hlabels := h.labels.append_right [s.label]
  simpa [outputs] using hlabels

theorem Outlined.plain_claim {d : Draft} (h : d.Outlined) {s : Select} (hs : ¬ s.expr.isBucket) :
    ∀ x ∈ d.selects ++ [s], ¬ x.expr.isBucket :=
  List.forall_mem_append.2 ⟨h.plain, List.forall_mem_singleton.2 hs⟩

theorem Step.outlined {entry : Entry} {d d' : Draft} (hs : Step entry d d') (h : d.Outlined) :
    d'.Outlined := by
  cases hs with
  | again => exact ⟨h.aliases, h.labels, h.grouped, h.registered, h.groups, h.axis, h.plain⟩
  | @group _ c label hc hnew _ hl =>
    refine ⟨h.nodup_claim hl, h.perm_claim, ?_, fun x hx => ?_, ?_, h.axis,
      h.plain_claim Bool.false_ne_true⟩
    · exact h.grouped.append (List.nodup_singleton c) (by simpa using hnew)
    · rcases List.mem_append.1 hx with hx | hx
      · exact h.registered x hx
      · exact List.mem_singleton.1 hx ▸ hc
    · simp [List.filter_append, h.groups]
  | @axis _ b label hc hb hnone hl =>
    refine ⟨h.nodup_claim hl, ?_, h.grouped, h.registered, h.groups, fun s hs => ?_, h.plain⟩
    · have hlabels := h.labels
      rw [outputs, hnone] at hlabels
      exact (hlabels.cons label).trans (List.perm_append_singleton label d.aliases).symm
    · exact ⟨b, label, hb, (Option.mem_some_iff.1 hs).symm⟩
  | @value _ d₁ c label _ _ e hc _ hf he hl =>
    have hsame : d₁ = { d with joins := d₁.joins, params := d₁.params } := by cases hf <;> rfl
    rw [hsame]
    refine ⟨h.nodup_claim hl, h.perm_claim, h.grouped, h.registered, ?_, h.axis,
      h.plain_claim (not_isBucket_of_aggregate he)⟩
    simp [List.filter_append, h.groups]
  | condition => exact ⟨h.aliases, h.labels, h.grouped, h.registered, h.groups, h.axis, h.plain⟩

theorem Step.bucket_eq {entry : Entry} {d d' : Draft} (h : Step entry d d') :
    d'.bucket = d.bucket := by
  cases h with
  | value _ _ hf => cases hf <;> rfl
  | _ => rfl

theorem Reaches.bucket_eq {d d' : Draft} (h : Reaches d d') : d'.bucket = d.bucket :=
  h.keeps (P := fun x => x.bucket = d.bucket) (fun hs hx => hs.bucket_eq.trans hx) rfl

theorem isSome_axis_of_ensureAxis {d d' : Draft} (h : d.ensureAxis = .ok d')
    (hb : d'.bucket.isSome) :
    d'.axis.isSome := by
  rcases ensureAxis_ok h with ⟨rfl, haxis⟩ | ⟨b, -, -, -, rfl⟩
  · exact haxis hb
  · rfl

namespace Outlined

variable {d : Draft}

theorem nodup_labels (h : d.Outlined) : (d.outputs.map (·.label)).Nodup :=
  h.labels.nodup_iff.2 h.aliases

/-- The groups of a plan are its axis and the columns that are grouped by. -/
theorem groupBy_eq (h : d.Outlined) : (d.outputs.filter (·.role == .group)).map (·.expr) =
    d.axis.toList.map (·.expr) ++ d.grouped.map Column.expr := by
  have haxis : d.axis.toList.filter (·.role == .group) = d.axis.toList := by
    refine List.filter_eq_self.2 fun s hs => ?_
    obtain ⟨b, label, -, rfl⟩ := h.axis s (Option.mem_toList.1 hs)
    rfl
  rw [outputs, List.filter_append, List.map_append, haxis, h.groups]

theorem nodup_groupBy (h : d.Outlined) :
    ((d.outputs.filter (·.role == .group)).map (·.expr)).Nodup := by
  have hcolumns : (d.grouped.map Column.expr).Nodup :=
    h.grouped.map_on fun c hc c' hc' he =>
      eq_of_expr_eq (h.registered c hc) (h.registered c' hc') he
  rw [h.groupBy_eq]
  cases haxis : d.axis with
  | none => exact hcolumns
  | some s =>
    obtain ⟨b, label, -, rfl⟩ := h.axis s haxis
    refine List.nodup_cons.2 ⟨fun hmem => ?_, hcolumns⟩
    obtain ⟨c, -, hc⟩ := List.mem_map.1 hmem
    cases hc

end Outlined

end Draft

section Roles

variable {selects : List Select}

/-- Every output is a group or a value. -/
theorem perm_labels (selects : List Select) :
    (labels .group selects ++ labels .value selects).Perm (selects.map (·.label)) := by
  have hvalue : selects.filter (·.role == .value) = selects.filter fun s =>
      !(s.role == .group) := by
    refine List.filter_congr fun s _ => ?_
    cases s.role <;> rfl
  unfold labels
  rw [hvalue, ← List.map_append]
  exact (List.filter_append_perm _ selects).map _

theorem nodup_groupLabels (h : (selects.map (·.label)).Nodup) : (labels .group selects).Nodup :=
  h.sublist (List.filter_sublist.map _)

end Roles

section Order

/-- What stands in front of the groups in an order. -/
def requestedKeys (selects : List Select) (hasAxis : Bool) (sort : Option SortOrder) :
    List (String × Direction) :=
  if hasAxis then [] else (sort.map (requestedKey selects)).getD []

def groupKeys (groups : List String) : List (String × Direction) := groups.map fun a => (a, .asc)

@[simp] theorem map_fst_groupKeys (groups : List String) :
    (groupKeys groups).map Prod.fst = groups := by
  simp [groupKeys, Function.comp_def]

/-- The groups that are no keys yet come behind all keys, in their own order. -/
theorem foldl_keys_eq {groups : List String} (hg : groups.Nodup)
    (keys : List (String × Direction)) :
    groups.foldl (fun keys a =>
        if (keys.map Prod.fst).contains a then keys else keys ++ [(a, .asc)]) keys =
      keys ++ groupKeys (groups.filter (· ∉ keys.map Prod.fst)) := by
  induction groups generalizing keys with
  | nil => simp [groupKeys]
  | cons a groups ih =>
    obtain ⟨hfresh, hg⟩ := List.nodup_cons.1 hg
    rw [List.foldl_cons, ih hg]
    by_cases ha : a ∈ keys.map Prod.fst
    · rw [if_pos (List.contains_iff_mem.2 ha), List.filter_cons_of_neg (by simpa using ha)]
    · have hrest : groups.filter (· ∉ (keys ++ [(a, Direction.asc)]).map Prod.fst) =
          groups.filter (· ∉ keys.map Prod.fst) := by
        refine List.filter_congr fun x hx => ?_
        have hne : x ≠ a := ne_of_mem_of_not_mem hx hfresh
        simp [hne]
      rw [if_neg fun hc => ha (List.contains_iff_mem.1 hc),
        List.filter_cons_of_pos (by simpa using ha), hrest, List.append_assoc]
      rfl

theorem orderKeys_eq {selects : List Select} (hasAxis : Bool) (sort : Option SortOrder)
    (h : (labels .group selects).Nodup) :
    orderKeys selects hasAxis sort = requestedKeys selects hasAxis sort ++
      groupKeys ((labels .group selects).filter
        (· ∉ (requestedKeys selects hasAxis sort).map Prod.fst)) :=
  foldl_keys_eq h _

theorem nodup_requestedKeys (selects : List Select) (hasAxis : Bool) (sort : Option SortOrder) :
    ((requestedKeys selects hasAxis sort).map Prod.fst).Nodup := by
  have hone (key : Option (String × Direction)) : (key.toList.map Prod.fst).Nodup := by
    cases key <;> simp
  unfold requestedKeys
  split
  · exact List.nodup_nil
  · cases sort with
    | none => exact List.nodup_nil
    | some sort => exact hone _

/-- No name is ordered by twice, and every group is ordered by. -/
theorem nodup_orderKeys {selects : List Select} (hasAxis : Bool) (sort : Option SortOrder)
    (h : (labels .group selects).Nodup) :
    ((orderKeys selects hasAxis sort).map Prod.fst).Nodup := by
  rw [orderKeys_eq hasAxis sort h, List.map_append, map_fst_groupKeys]
  refine (nodup_requestedKeys selects hasAxis sort).append (h.filter _) fun a hr hg => ?_
  exact of_decide_eq_true (List.mem_filter.1 hg).2 hr

theorem groupLabels_subset_orderKeys {selects : List Select} (hasAxis : Bool)
    (sort : Option SortOrder) (h : (labels .group selects).Nodup) :
    labels .group selects ⊆ (orderKeys selects hasAxis sort).map Prod.fst := by
  intro a ha
  rw [orderKeys_eq hasAxis sort h, List.map_append, map_fst_groupKeys, List.mem_append]
  by_cases hr : a ∈ (requestedKeys selects hasAxis sort).map Prod.fst
  · exact .inl hr
  · exact .inr (List.mem_filter.2 ⟨ha, decide_eq_true hr⟩)

/-- With an axis the groups alone order the rows. -/
theorem orderKeys_of_axis {selects : List Select} (sort : Option SortOrder)
    (h : (labels .group selects).Nodup) :
    orderKeys selects true sort = groupKeys (labels .group selects) := by
  rw [orderKeys_eq true sort h]
  simp [requestedKeys]

end Order

/-- The outputs of a plan and their order. With a bucket the first output is the bucketed time
column, which then orders the rows ahead of all other groups. -/
structure QueryPlan.Outlined (p : QueryPlan) (time : Column) (bucket : Option Bucket) : Prop where
  timeBucket : p.timeBucket = bucket
  aliases : p.selectLabels.Nodup
  groupBy : p.groupBy = (p.selects.filter (·.role == .group)).map (·.expr)
  groups : p.groupBy.Nodup
  partition : (p.groupLabels ++ p.valueLabels).Perm p.selectLabels
  plain : bucket = none → p.timeLabel = none ∧ ∀ s ∈ p.selects, ¬ s.expr.isBucket
  axis : ∀ b ∈ bucket, ∃ label rest, p.timeLabel = some label ∧
    p.selects = Draft.axisOf time b label :: rest ∧
    (∀ s ∈ rest, ¬ s.expr.isBucket) ∧
    p.orderBy = (groupKeys (label :: labels .group rest)).map sortKeyOf
  order : ∃ keys : List (String × Direction), p.orderBy = keys.map sortKeyOf ∧
    (keys.map Prod.fst).Nodup ∧ keys.map Prod.fst ⊆ p.selectLabels ∧
    ∀ a ∈ p.groupLabels, (keys.map Prod.fst).count a = 1

section Compiled

variable {definition : Definition} {w : Timeframe} {maxLimit : Nat} {p : QueryPlan} {d : Draft}

theorem Compiled.bucket_eq (h : Compiled definition w maxLimit p d) :
    d.bucket = definition.timeBucket :=
  h.reaches.bucket_eq

theorem Compiled.outlined_draft (h : Compiled definition w maxLimit p d) : d.Outlined :=
  h.reaches.keeps Draft.Step.outlined (Draft.outlined_initial _ _)

/-- Exactly the bucketed definitions have an axis. -/
theorem Compiled.axis_eq (h : Compiled definition w maxLimit p d) :
    (definition.timeBucket = none ∧ d.axis = none) ∨
    ∃ b label, definition.timeBucket = some b ∧
      d.axis = some (Draft.axisOf d.timeColumn b label) := by
  have hout := h.outlined_draft
  have hbucket := h.bucket_eq
  cases haxis : d.axis with
  | some s =>
    obtain ⟨b, label, hb, rfl⟩ := hout.axis s haxis
    exact .inr ⟨b, label, hbucket ▸ hb, rfl⟩
  | none =>
    refine .inl ⟨?_, rfl⟩
    obtain ⟨d₁, -, hbuild⟩ := ok_of_bind h.build
    obtain ⟨d₂, -, hbuild⟩ := ok_of_bind hbuild
    obtain ⟨d₃, -, hbuild⟩ := ok_of_bind hbuild
    cases hb : definition.timeBucket with
    | none => rfl
    | some b =>
      have haxis' := Draft.isSome_axis_of_ensureAxis hbuild (by simp [hbucket, hb])
      simp [haxis] at haxis'

theorem Compiled.outlined (h : Compiled definition w maxLimit p d) :
    p.Outlined d.timeColumn definition.timeBucket := by
  have hout := h.outlined_draft
  have hgroups := nodup_groupLabels hout.nodup_labels
  rw [h.finish]
  refine ⟨h.bucket_eq, hout.nodup_labels, rfl, hout.nodup_groupBy, perm_labels _, fun hnone => ?_,
    fun b hb => ?_, ?_⟩
  · rcases h.axis_eq with ⟨-, haxis⟩ | ⟨b, label, hb, -⟩
    · exact ⟨congrArg (Option.map _) haxis, by simpa [Draft.finish, haxis] using hout.plain⟩
    · rw [hnone] at hb
      cases hb
  · rcases h.axis_eq with ⟨hnone, -⟩ | ⟨b', label, hb', haxis⟩
    · rw [hnone] at hb
      cases hb
    · obtain rfl : b' = b := by simpa [hb'] using hb
      have houtputs : d.outputs = Draft.axisOf d.timeColumn b' label :: d.selects := by
        rw [Draft.outputs, haxis]
        rfl
      have horder : orderKeys d.outputs d.axis.isSome definition.options.sort =
          groupKeys (label :: labels .group d.selects) := by
        rw [haxis, Option.isSome_some, orderKeys_of_axis _ hgroups, houtputs]
        rfl
      exact ⟨label, d.selects, congrArg (Option.map _) haxis, houtputs, hout.plain,
        congrArg (List.map sortKeyOf) horder⟩
  · refine ⟨_, rfl, nodup_orderKeys _ _ hgroups, fun a ha => ?_, fun a ha => ?_⟩
    · obtain ⟨key, hkey, rfl⟩ := List.mem_map.1 ha
      exact mem_of_mem_orderKeys hkey
    · exact List.count_eq_one_of_mem (nodup_orderKeys _ _ hgroups)
        (groupLabels_subset_orderKeys _ _ hgroups ha)

end Compiled

namespace QueryPlan.Outlined

variable {p : QueryPlan} {time : Column} {bucket : Option Bucket}

/-- Scopes add conditions only. -/
theorem restrict (h : p.Outlined time bucket) (scopes : List Scope) :
    (restrict scopes p).Outlined time bucket := by
  obtain ⟨predicates, params, heq⟩ := restrict_eq scopes p
  rw [heq]
  exact ⟨h.timeBucket, h.aliases, h.groupBy, h.groups, h.partition, h.plain, h.axis, h.order⟩

/-- What is read from a result is the axis of its plan. -/
theorem timeAxis_resultOf (h : p.Outlined time bucket) (rows : List Store.Row) :
    (Store.resultOf p rows).timeAxis? = bucket.bind fun b => p.timeLabel.map fun label =>
      (label, b) := by
  have hb := h.timeBucket
  cases bucket with
  | none => simp [Store.resultOf, Store.Result.timeAxis?, (h.plain rfl).1]
  | some b =>
    obtain ⟨label, rest, hlabel, hselects, -⟩ := h.axis b rfl
    have hhead : p.groupLabels.head? = some label := by
      rw [QueryPlan.groupLabels, hselects]
      rfl
    simp [Store.resultOf, Store.Result.timeAxis?, hlabel, hb, hhead]

end QueryPlan.Outlined

/-- Every plan has one alias for each output, groups by each of its groups once, has an axis exactly
if its definition has a bucket, and orders its rows by outputs, every group among them; whatever
scopes restrict it. Results of the plan have the same axis. -/
theorem outlined_of_compile {definition : Definition} {w : Timeframe} {maxLimit : Nat}
    {p : QueryPlan} (h : compile definition w maxLimit = .ok p) (scopes : List Scope) :
    (∃ time, timeColumnOf definition.options = .ok time ∧
      (restrict scopes p).Outlined time definition.timeBucket) ∧
    ∀ {σ : Type} (store : Store σ) (s : σ) (r : Store.Result),
      (Store.run store (restrict scopes p) s).1 = .ok r →
        ∀ label b, r.timeAxis? = some (label, b) ↔
          definition.timeBucket = some b ∧ p.timeLabel = some label := by
  obtain ⟨d, hc⟩ := compiled_of_compile h
  have hout := hc.outlined.restrict scopes
  refine ⟨⟨d.timeColumn, hc.time, hout⟩, fun store s r hr label b => ?_⟩
  obtain ⟨rows, rfl⟩ := Store.run_ok hr
  rw [hout.timeAxis_resultOf rows, restrict_timeLabel]
  simp [Option.bind_eq_some_iff, and_comm]

theorem outlined_of_compile_severeShare : ∃ p, compile severeShare sinceMarch 10000 = .ok p ∧
    (restrict [clientScope] p).Outlined defaultTimeColumn (some .fiveMinutes) ∧
    ∃ r, (Store.run (Store.scripted .sqlite (.rejected ""))
      (restrict [clientScope] p) ⟨[.ok []], []⟩).1 = .ok r ∧
      ∃ label, r.timeAxis? = some (label, .fiveMinutes) := by
  obtain ⟨p, hp, -⟩ := exists_compile_severeShare
  obtain ⟨⟨time, htime, hout⟩, hrun⟩ := outlined_of_compile hp [clientScope]
  obtain rfl : time = defaultTimeColumn := (Except.ok.inj htime).symm
  obtain ⟨label, rest, hlabel, -⟩ := hout.axis .fiveMinutes rfl
  rw [restrict_timeLabel] at hlabel
  have haxis := hrun (Store.scripted .sqlite (.rejected "")) ⟨[.ok []], []⟩ _ rfl label .fiveMinutes
  exact ⟨p, hp, hout, _, rfl, label, haxis.2 ⟨rfl, hlabel⟩⟩

end Plan

end IncidentBoard
