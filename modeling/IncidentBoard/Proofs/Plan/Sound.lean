import IncidentBoard.Proofs.Access.Restriction
import IncidentBoard.Proofs.Plan.Shape

/-! What holds of every compiled plan and is kept by every scope. -/
namespace IncidentBoard.Plan

open Sql Widget Schema Access

namespace Draft

/-- The parameters of the outputs and conditions in the order of the text. -/
def reads (d : Draft) : List Nat :=
  d.outputs.flatMap (·.expr.params) ++ d.predicates.flatMap Expr.params

/-- Every bound value is read once, in the order in which they were bound. -/
def Numbered (d : Draft) : Prop := d.reads = List.range' 1 d.params.length

theorem range'_bind {p p' : Params} {vs : List SqlValue} (h : p'.values = p.values ++ vs) :
    List.range' 1 p.length ++ List.range' (p.length + 1) vs.length = List.range' 1 p'.length := by
  have hlen : p'.length = p.length + vs.length := by simp [Params.length, h]
  rw [hlen, ← List.range'_append_1, Nat.add_comm 1]

/-- The filter of a field binds its values after all others. -/
theorem Filtered.binds {d d' : Draft} {condition : Option Expr} (h : d.Filtered condition d') :
    ∃ vs, d'.params.values = d.params.values ++ vs ∧
      condition.toList.flatMap Expr.params = List.range' (d.params.length + 1) vs.length := by
  cases h with
  | all => exact ⟨[], by simp, by simp⟩
  | where' hc h =>
    obtain ⟨vs, hv, hp⟩ := h.binds
    exact ⟨vs, hv, by simpa using hp⟩

theorem Step.numbered {entry : Entry} {d d' : Draft} (hs : Step entry d d') (h : d.Numbered) :
    d'.Numbered := by
  unfold Numbered reads at h ⊢
  cases hs with
  | again => exact h
  | group => simpa [outputs, requireTable] using h
  | axis _ _ hnone => simpa [outputs, requireTable, hnone] using h
  | @value _ d₁ _ _ _ _ e hc hp hf he hl =>
    have hsame : d₁.axis = d.axis ∧ d₁.predicates = d.predicates := by cases hf <;> exact ⟨rfl, rfl⟩
    obtain ⟨vs, hv, hparams⟩ := hf.binds
    have hread : e.params = List.range' (d.params.length + 1) vs.length :=
      (params_of_aggregate he).trans hparams
    have hv : d₁.params.values = d.params.values ++ vs := hv
    -- no condition on rows stands behind the new output yet
    rw [← range'_bind hv, ← hread, ← h, hp]
    simp [outputs, hsame, hp]
  | condition hc hcond =>
    obtain ⟨vs, hv, hparams⟩ := hcond.binds
    rw [← range'_bind hv, ← hparams, ← h]
    simp [outputs, requireTable]

theorem numbered_initial (time : Column) (bucket : Option Bucket) :
    (Draft.initial time bucket).Numbered := by
  simp [Numbered, reads, outputs, Draft.initial, Params.length]

end Draft

theorem Compiled.numbered {definition : Definition} {w : Timeframe} {maxLimit : Nat} {p : QueryPlan}
    {d : Draft} (h : Compiled definition w maxLimit p d) : d.Numbered :=
  h.reaches.keeps Draft.Step.numbered (Draft.numbered_initial _ _)

section Order

theorem mem_of_mem_requestedKey {selects : List Select} {sort : SortOrder}
    {key : String × Direction} (h : key ∈ requestedKey selects sort) :
    key.1 ∈ selects.map (·.label) := by
  unfold requestedKey at h
  obtain ⟨s, hs, rfl⟩ := Option.map_eq_some_iff.1 (Option.mem_toList.1 h)
  refine List.mem_map.2 ⟨s, ?_, rfl⟩
  cases hf : selects.find? (·.role == .value) with
  | none =>
    rw [hf, Option.none_or] at hs
    exact List.mem_of_head? hs
  | some s' =>
    rw [hf, Option.some_or] at hs
    cases hs
    exact List.mem_of_find?_eq_some hf

/-- Rows are ordered by outputs of the plan alone. -/
theorem mem_of_mem_orderKeys {selects : List Select} {hasAxis : Bool} {sort : Option SortOrder}
    {key : String × Direction} (h : key ∈ orderKeys selects hasAxis sort) :
    key.1 ∈ selects.map (·.label) := by
  have fold_mem (groups : List String) (keys : List (String × Direction))
      (hk : key ∈ groups.foldl (fun keys a =>
        if (keys.map Prod.fst).contains a then keys else keys ++ [(a, .asc)]) keys) :
      key ∈ keys ∨ key.1 ∈ groups := by
    induction groups generalizing keys with
    | nil => exact .inl hk
    | cons a groups ih =>
      rw [List.foldl_cons] at hk
      rcases ih _ hk with hk | hk
      · split at hk
        · exact .inl hk
        · rcases List.mem_append.1 hk with hk | hk
          · exact .inl hk
          · rw [List.mem_singleton.1 hk]
            exact .inr List.mem_cons_self
      · exact .inr (List.mem_cons_of_mem _ hk)
  unfold orderKeys at h
  rcases fold_mem _ _ h with h | h
  · cases hasAxis with
    | true => cases h
    | false =>
      cases sort with
      | none => cases h
      | some sort => exact mem_of_mem_requestedKey h
  · obtain ⟨s, hs, hl⟩ := List.mem_map.1 h
    exact List.mem_map.2 ⟨s, (List.mem_filter.1 hs).1, hl⟩

end Order

/-- The condition of some scope. -/
def IsRestriction (e : Expr) : Prop := ∃ p customers cases p', Restriction p customers cases e p'

theorem IsRestriction.regular {e : Expr} (h : IsRestriction e) : e.Regular := by
  obtain ⟨p, customers, cases, p', h⟩ := h
  exact h.regular

structure QueryPlan.Sound (p : QueryPlan) : Prop where
  outputs : ∀ s ∈ p.selects, Output s
  groups : p.groupBy = (p.selects.filter (·.role == .group)).map (·.expr)
  keys : ∀ k ∈ p.orderBy, ∃ label ∈ p.selectLabels, k.expr = .col label
  joins : ∀ j ∈ p.joins, j ∈ joinSteps
  predicates : ∀ e ∈ p.predicates, IsCondition e ∨ IsRestriction e
  numbered : p.selects.flatMap (·.expr.params) ++ p.predicates.flatMap Expr.params =
    List.range' 1 p.params.length

theorem sound_of_compile {definition : Definition} {w : Timeframe} {maxLimit : Nat} {p : QueryPlan}
    (h : compile definition w maxLimit = .ok p) : p.Sound := by
  obtain ⟨d, h⟩ := compiled_of_compile h
  have hshape := h.shaped
  have hnumber := h.numbered
  rw [h.finish]
  refine ⟨hshape.outputs, rfl, fun k hk => ?_, hshape.joins, fun e he =>
    .inl (hshape.conditions e he), hnumber⟩
  obtain ⟨key, hkey, rfl⟩ := List.mem_map.1 hk
  exact ⟨key.1, mem_of_mem_orderKeys hkey, rfl⟩

namespace QueryPlan.Sound

variable {p : QueryPlan}

theorem apply (h : p.Sound) (s : Scope) : (s.apply p).Sound := by
  rcases s with - | ⟨customers, cases⟩
  · exact h
  · have hr := restriction_restriction customers cases p.params
    refine ⟨h.outputs, h.groups, h.keys, h.joins, fun e he => ?_, ?_⟩
    · rcases List.mem_append.1 he with he | he
      · exact h.predicates e he
      · rw [List.mem_singleton.1 he]
        exact .inr ⟨_, _, _, _, hr⟩
    · have hnumber := Draft.range'_bind hr.values_eq
      rw [List.length_map, List.length_append, ← hr.params_eq, ← h.numbered] at hnumber
      simpa [Scope.apply, QueryPlan.addPredicate] using hnumber

theorem restrict (h : p.Sound) (scopes : List Scope) : (restrict scopes p).Sound :=
  restrict_keeps (fun h => h.apply _) h scopes

end QueryPlan.Sound

end IncidentBoard.Plan
