import IncidentBoard.Proofs.Plan.Bucketing
import IncidentBoard.Proofs.Plan.Joins

/-! The columns that a draft groups by. They stay, and to ask for one of them again changes
nothing. -/
namespace IncidentBoard

open Sql Widget Schema

/-- Whether a definition groups by a column, by a plain field or by name. -/
def Widget.Definition.GroupsBy (definition : Definition) (c : Column) : Prop :=
  (∃ f ∈ definition.fields, f.aggregation = none ∧ resolve f.table f.column = .ok c) ∨
    ∃ reference ∈ definition.groupBy, resolveReference reference = .ok c

namespace Schema

/-- A registered table is reached by one step. -/
theorem eq_of_table_eq {j j' : JoinStep} (hj : j ∈ Plan.joinSteps) (hj' : j' ∈ Plan.joinSteps)
    (h : j.table = j'.table) : j = j' := by
  have distinct : (Plan.joinSteps.map (·.table)).Nodup := by decide
  exact List.inj_on_of_nodup_map distinct hj hj' h

theorem eq_of_defaultAlias_eq {c c' : Column} (hc : c ∈ columns) (hc' : c' ∈ columns)
    (h : c.defaultAlias = c'.defaultAlias) : c = c' := by
  have distinct : (columns.map Column.defaultAlias).Nodup := by decide +kernel
  exact List.inj_on_of_nodup_map distinct hc hc' h

end Schema

namespace Plan

/-- Joining is putting steps together, as long as they are those of registered paths. -/
theorem mem_addJoins {joins steps : List JoinStep} (hjoins : joins ⊆ joinSteps)
    (hsteps : steps ⊆ joinSteps) {j : JoinStep} :
    j ∈ addJoins joins steps ↔ j ∈ joins ∨ j ∈ steps := by
  induction steps generalizing joins with
  | nil => simp [addJoins]
  | cons s steps ih =>
    obtain ⟨hs, hsteps⟩ := List.cons_subset.1 hsteps
    rw [addJoins, List.foldl_cons]
    split
    · next hjoined =>
      -- the step that joins the table of `s` is `s`
      have hmem : s ∈ joins := by
        obtain ⟨s', hs', htable⟩ := List.mem_map.1 (any_table_iff.1 hjoined)
        rwa [← eq_of_table_eq (hjoins hs') hs htable]
      have hiff := ih hjoins hsteps
      rw [addJoins] at hiff
      rw [hiff, List.mem_cons]
      constructor
      · exact fun h => h.imp_right .inr
      · rintro (h | rfl | h)
        · exact .inl h
        · exact .inl hmem
        · exact .inr h
    · have hmore : joins ++ [s] ⊆ joinSteps := by
        rw [List.append_subset]
        exact ⟨hjoins, by simpa using hs⟩
      have hiff := ih hmore hsteps
      rw [addJoins] at hiff
      rw [hiff, List.mem_append, List.mem_singleton, List.mem_cons, or_assoc]

namespace Draft

section Groups

variable {entry : Entry} {d d' : Draft} {c : Column} {label reference : String}

/-- A column that the draft groups by, be it as its axis, with its table joined. -/
structure GroupsBy (d : Draft) (c : Column) : Prop where
  group : if d.bucket.isSome ∧ c = d.timeColumn then d.axis.isSome else c ∈ d.grouped
  joined : ∀ j ∈ joinPath c.table, d.joins.any (·.table == j.table)

theorem addGroup_timeColumn {b : Bucket} (hb : d.bucket = some b) (label : String) :
    d.addGroup d.timeColumn label = if d.axis.isNone then d.setAxis b label else .ok d := by
  unfold addGroup
  simp [hb]

theorem addGroup_plain (h : ¬ (d.bucket.isSome ∧ c = d.timeColumn)) (label : String) :
    d.addGroup c label = addGroup.addPlain d c label := by
  unfold addGroup
  cases hb : d.bucket with
  | none => rfl
  | some b => exact if_neg fun hc => h ⟨by rw [hb]; rfl, hc⟩

/-- What is grouped by stays so, and what is joined stays joined. -/
theorem Step.groupsBy (hs : Step entry d d') (h : d.GroupsBy c) : d'.GroupsBy c := by
  have hbucket := hs.bucket_eq
  have htime := hs.timeColumn_eq
  have haxis : d.axis.isSome → d'.axis.isSome := by
    cases hs with
    | axis => exact fun _ => rfl
    | value _ _ hf => cases hf <;> exact id
    | _ => exact id
  have hgrouped : c ∈ d.grouped → c ∈ d'.grouped := by
    cases hs with
    | group => exact List.mem_append_left _
    | value _ _ hf => cases hf <;> exact id
    | _ => exact id
  have hjoins {table : String} (ht : d.joins.any (·.table == table)) :
      d'.joins.any (·.table == table) := by
    cases hs with
    | value _ _ hf =>
      cases hf with
      | all => exact any_addJoins ht
      | where' => exact any_addJoins (any_addJoins ht)
    | _ => exact any_addJoins ht
  constructor
  · have hgroup := h.group
    rw [hbucket, htime]
    split
    · next htimed =>
      rw [if_pos htimed] at hgroup
      exact haxis hgroup
    · next hplain =>
      rw [if_neg hplain] at hgroup
      exact hgrouped hgroup
  · exact fun j hj => hjoins (h.joined j hj)

theorem Reaches.groupsBy (hr : Reaches d d') (h : d.GroupsBy c) : d'.GroupsBy c :=
  hr.keeps (P := fun d => d.GroupsBy c) Step.groupsBy h

/-- Once its table is joined, a column is grouped by. -/
theorem groupsBy_of_addGroup (hjoined : ∀ j ∈ joinPath c.table, d.joins.any (·.table == j.table))
    (h : d.addGroup c label = .ok d') : d'.GroupsBy c := by
  by_cases htimed : d.bucket.isSome ∧ c = d.timeColumn
  · obtain ⟨hbucket, rfl⟩ := htimed
    obtain ⟨b, hb⟩ := Option.isSome_iff_exists.1 hbucket
    rw [addGroup_timeColumn hb] at h
    cases haxis : d.axis with
    | none =>
      rw [haxis] at h
      obtain ⟨-, rfl⟩ := setAxis_ok h
      exact ⟨(if_pos ⟨hbucket, rfl⟩).mpr rfl, fun j hj => any_addJoins (hjoined j hj)⟩
    | some s =>
      rw [haxis] at h
      cases h
      exact ⟨(if_pos ⟨hbucket, rfl⟩).mpr (Option.isSome_of_eq_some haxis), hjoined⟩
  · rw [addGroup_plain htimed, addGroup.addPlain] at h
    split at h
    · next hmem =>
      cases h
      exact ⟨(if_neg htimed).mpr (List.contains_iff_mem.1 hmem), hjoined⟩
    · obtain ⟨d₁, hl, h⟩ := ok_of_bind h
      obtain ⟨-, rfl⟩ := claimAlias_ok hl
      cases h
      exact ⟨(if_neg htimed).mpr (List.mem_append_right _ (List.mem_singleton_self c)), hjoined⟩

/-- A group that is there already changes nothing. -/
theorem GroupsBy.addReference (h : d.GroupsBy c) (hr : resolveReference reference = .ok c) :
    d.addReference reference = .ok d := by
  have htable : d.requireTable c.table = d := by
    rw [requireTable, addJoins_self h.joined]
  have hgroup := h.group
  unfold Draft.addReference
  rw [hr]
  change (d.requireTable c.table).addGroup c c.defaultAlias = .ok d
  rw [htable]
  by_cases htimed : d.bucket.isSome ∧ c = d.timeColumn
  · rw [if_pos htimed] at hgroup
    obtain ⟨hbucket, rfl⟩ := htimed
    obtain ⟨b, hb⟩ := Option.isSome_iff_exists.1 hbucket
    obtain ⟨s, hs⟩ := Option.isSome_iff_exists.1 hgroup
    rw [addGroup_timeColumn hb, hs]
    rfl
  · rw [if_neg htimed] at hgroup
    rw [addGroup_plain htimed, addGroup.addPlain, if_pos (List.contains_iff_mem.2 hgroup)]

end Groups

section Entries

variable {d d' : Draft} {c : Column}

/-- The entries of a list, up to one of them, that one, and those after it. -/
theorem foldlM_split {α : Type} {f : Draft → α → Except DefinitionError Draft} {xs : List α} {x : α}
    (hx : x ∈ xs) (h : xs.foldlM f d = .ok d') :
    ∃ before after d₁ d₂, xs = before ++ x :: after ∧
      before.foldlM f d = .ok d₁ ∧ f d₁ x = .ok d₂ ∧ after.foldlM f d₂ = .ok d' := by
  obtain ⟨before, after, rfl⟩ := List.append_of_mem hx
  rw [List.foldlM_append] at h
  obtain ⟨d₁, hbefore, h⟩ := ok_of_bind h
  rw [List.foldlM_cons] at h
  obtain ⟨d₂, hone, hafter⟩ := ok_of_bind h
  exact ⟨before, after, d₁, d₂, rfl, hbefore, hone, hafter⟩

theorem groupsBy_of_field {fields : List Field} {f : Field} (hp : d.predicates = [])
    (hf : f ∈ fields) (hplain : f.aggregation = none) (hc : resolve f.table f.column = .ok c)
    (h : fields.foldlM addField d = .ok d') :
    d'.GroupsBy c := by
  obtain ⟨before, after, d₁, d₂, -, hbefore, hone, hafter⟩ := foldlM_split hf h
  have hp₁ := (addFields_reach hp hbefore).2
  have hp₂ : d₂.predicates = [] := (addField_step hp₁ hone).predicates_eq.trans hp₁
  refine (addFields_reach hp₂ hafter).1.groupsBy ?_
  obtain ⟨c', hc', ⟨-, -, hgroup⟩ | ⟨name, a, hname, -, -⟩⟩ := addField_ok hone
  · obtain rfl : c' = c := Except.ok.inj (hc'.symm.trans hc)
    exact groupsBy_of_addGroup (fun j hj => any_addJoins_of_mem hj) hgroup
  · rw [hplain] at hname
    cases hname

theorem groupsBy_of_reference {references : List String} {reference : String}
    (hmem : reference ∈ references) (hc : resolveReference reference = .ok c)
    (h : references.foldlM addReference d = .ok d') : d'.GroupsBy c := by
  obtain ⟨before, after, d₁, d₂, -, -, hone, hafter⟩ := foldlM_split hmem h
  refine (references_reach hafter).groupsBy ?_
  unfold addReference at hone
  rw [hc] at hone
  exact groupsBy_of_addGroup (fun j hj => any_addJoins_of_mem hj) hone

end Entries

section Axis

variable {entry : Entry} {d d' : Draft}

/-- An axis has its table joined. -/
def AxisJoined (d : Draft) : Prop := d.axis.isSome → d.GroupsBy d.timeColumn

theorem Step.axisJoined (hs : Step entry d d') (h : d.AxisJoined) : d'.AxisJoined := by
  intro haxis
  by_cases hbefore : d.axis.isSome
  · rw [hs.timeColumn_eq]
    exact hs.groupsBy (h hbefore)
  · cases hs with
    | @axis _ _ _ _ hb =>
      exact ⟨(if_pos ⟨Option.isSome_of_eq_some hb, rfl⟩).mpr rfl, fun j hj =>
        any_addJoins_of_mem hj⟩
    | value _ _ hf => cases hf <;> exact absurd haxis hbefore
    | _ => exact absurd haxis hbefore

end Axis

end Draft

open Draft in
/-- By the time that its groups are in, a definition groups by every column that it asks for. -/
theorem groupsBy_of_entries {definition : Definition} {time c : Column} {d₁ d₂ : Draft}
    (h : definition.GroupsBy c)
    (hfields : definition.fields.foldlM addField (initial time definition.timeBucket) = .ok d₁)
    (hgroups : definition.groupBy.foldlM addReference d₁ = .ok d₂) : d₂.GroupsBy c := by
  rcases h with ⟨f, hf, hplain, hc⟩ | ⟨reference, hr, hc⟩
  · exact (references_reach hgroups).groupsBy (groupsBy_of_field rfl hf hplain hc hfields)
  · exact groupsBy_of_reference hr hc hgroups

end Plan

end IncidentBoard
