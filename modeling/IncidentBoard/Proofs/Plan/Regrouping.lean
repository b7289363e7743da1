import IncidentBoard.Proofs.Plan.Grouped

/-! Groups that are asked for again, and the axis that is asked for early. -/
namespace IncidentBoard.Plan

open Sql Widget Schema

namespace Draft

section Ahead

/-- A draft, and what it is if its axis was asked for before: the axis is there, its alias taken and
its table joined. In which order the tables were joined does not matter. -/
inductive Ahead (b : Bucket) (d : Draft) : Draft → Prop
  | ahead {aliases : List String} {joins : List JoinStep} (time : d.timeColumn ∈ columns)
      (bucket : d.bucket = some b)
      (steps : d.joins ⊆ joinSteps)
      (taken : ∀ a, a ∈ aliases ↔ a ∈ d.aliases ∨ d.axis = none ∧ a = d.timeColumn.defaultAlias)
      (joined : ∀ j, j ∈ joins ↔ j ∈ d.joins ∨ j ∈ joinPath d.timeColumn.table) :
    Ahead b d { d with
      axis := some (d.axis.getD (axisOf d.timeColumn b d.timeColumn.defaultAlias))
      aliases, joins }

namespace Ahead

variable {b : Bucket} {d d' e : Draft} {c : Column} {label : String}

theorem steps_right (h : Ahead b d d') : d'.joins ⊆ joinSteps := by
  cases h with
  | ahead _ _ steps _ joined =>
    intro j hj
    exact ((joined j).1 hj).elim (fun hj => steps hj) fun hj => joinPath_subset _ hj

theorem requireTable (h : Ahead b d d') (table : String) :
    Ahead b (d.requireTable table) (d'.requireTable table) := by
  have hright := h.steps_right
  cases h with
  | @ahead aliases joins time bucket steps taken joined =>
    have hpath := joinPath_subset table
    refine .ahead time bucket (fun j hj => ?_) taken fun j => ?_
    · exact ((mem_addJoins steps hpath).1 hj).elim (fun hj => steps hj) fun hj => hpath hj
    · have hleft : j ∈ (d.requireTable table).joins ↔ j ∈ d.joins ∨ j ∈ joinPath table :=
        mem_addJoins steps hpath
      have hboth : j ∈ addJoins joins (joinPath table) ↔ j ∈ joins ∨ j ∈ joinPath table :=
        mem_addJoins hright hpath
      rw [hboth, joined j, hleft, or_right_comm]
      rfl

/-- The table of the axis is there. -/
theorem requireTable_axis (h : Ahead b d d') : d'.requireTable d.timeColumn.table = d' := by
  cases h with
  | ahead _ _ _ _ joined =>
    rw [Draft.requireTable, addJoins_self]
    intro j hj
    exact any_table_iff.2 (List.mem_map_of_mem ((joined j).2 (.inr hj)))

/-- What comes to have its axis is what had it before. -/
theorem setAxis (h : Ahead b d d') (hnone : d.axis = none)
    (he : d.setAxis b d.timeColumn.defaultAlias = .ok e) :
    Ahead b e d' := by
  obtain ⟨-, rfl⟩ := setAxis_ok he
  cases h with
  | @ahead aliases joins time bucket steps taken joined =>
    have hpath := joinPath_subset d.timeColumn.table
    have hleft (j : JoinStep) : j ∈ (d.requireTable d.timeColumn.table).joins ↔
        j ∈ d.joins ∨ j ∈ joinPath d.timeColumn.table := mem_addJoins steps hpath
    have hsame (j : JoinStep) : j ∈ joins ↔
        j ∈ (d.requireTable d.timeColumn.table).joins ∨ j ∈ joinPath d.timeColumn.table := by
      rw [joined j, hleft j, or_assoc, or_self]
    rw [hnone]
    refine .ahead time bucket (fun j hj => ?_) (fun a => ?_) hsame
    · exact ((hleft j).1 hj).elim (fun hj => steps hj) fun hj => hpath hj
    · rw [taken a, List.mem_append, List.mem_singleton, hnone]
      simp

theorem claimAlias (h : Ahead b d d') (hl : label ≠ d.timeColumn.defaultAlias) :
    Carries (Ahead b) (d.claimAlias label) (d'.claimAlias label) := by
  intro e he
  obtain ⟨hfree, rfl⟩ := claimAlias_ok he
  cases h with
  | @ahead aliases joins time bucket steps taken joined =>
    have hfresh : label ∉ aliases := by
      rw [taken label, not_or]
      exact ⟨hfree.fresh, fun h => hl h.2⟩
    refine ⟨_, claimAlias_of_free ⟨hfree.valid, hfresh⟩,
      .ahead time bucket steps (fun a => ?_) joined⟩
    rw [List.mem_append, List.mem_append, taken a, or_right_comm]

theorem output (h : Ahead b d d') (s : Select) (c : Column) :
    Ahead b { d with grouped := d.grouped ++ [c], selects := d.selects ++ [s] }
      { d' with grouped := d'.grouped ++ [c], selects := d'.selects ++ [s] } := by
  cases h with
  | ahead time bucket steps taken joined => exact .ahead time bucket steps taken joined

/-- Conditions and their values do not tell the two apart. -/
theorem condition (h : Ahead b d d') (predicates : List Expr) (params : Params) :
    Ahead b { d with predicates := d.predicates ++ predicates, params }
      { d' with predicates := d'.predicates ++ predicates, params } := by
  cases h with
  | ahead time bucket steps taken joined => exact .ahead time bucket steps taken joined

theorem addPlain (h : Ahead b d d') (hl : label ≠ d.timeColumn.defaultAlias) :
    Carries (Ahead b) (addGroup.addPlain d c label) (addGroup.addPlain d' c label) := by
  have hgrouped : d'.grouped = d.grouped := by cases h; rfl
  unfold addGroup.addPlain
  rw [hgrouped]
  split
  · exact .ok h
  · refine (h.claimAlias hl).bind fun e e' he => .ok ?_
    exact he.output _ c

/-- The time column comes to be the axis of the one and is that of the other. -/
theorem addTime (h : Ahead b d d') :
    Carries (Ahead b) ((d.requireTable d.timeColumn.table).addGroup d.timeColumn
      d.timeColumn.defaultAlias)
      ((d'.requireTable d.timeColumn.table).addGroup d.timeColumn d.timeColumn.defaultAlias) := by
  have hjoined := h.requireTable d.timeColumn.table
  rw [h.requireTable_axis] at hjoined ⊢
  have hb : (d.requireTable d.timeColumn.table).bucket = some b := by
    cases h with
    | ahead _ bucket => exact bucket
  have hleft := addGroup_timeColumn hb d.timeColumn.defaultAlias
  have hright : d'.addGroup d.timeColumn d.timeColumn.defaultAlias = .ok d' := by
    cases h with
    | ahead _ bucket =>
      unfold Draft.addGroup
      simp [bucket]
  intro e he
  rw [hright]
  refine ⟨d', rfl, ?_⟩
  replace he : (if (d.requireTable d.timeColumn.table).axis.isNone then
      (d.requireTable d.timeColumn.table).setAxis b d.timeColumn.defaultAlias
      else .ok (d.requireTable d.timeColumn.table)) = .ok e := hleft.symm.trans he
  split at he
  · next hnone => exact hjoined.setAxis (Option.isNone_iff_eq_none.1 hnone) he
  · cases he
    exact hjoined

theorem addReference (h : Ahead b d d') (reference : String) :
    Carries (Ahead b) (d.addReference reference) (d'.addReference reference) := by
  unfold Draft.addReference
  cases hc : resolveReference reference with
  | error fault => exact .error
  | ok c =>
    change Carries (Ahead b) ((d.requireTable c.table).addGroup c c.defaultAlias)
      ((d'.requireTable c.table).addGroup c c.defaultAlias)
    by_cases htime : c = d.timeColumn
    · subst htime
      exact h.addTime
    · -- other columns have other default aliases, so that the alias of the axis is in nobody's way
      have ht : d.timeColumn ∈ columns := by cases h; assumption
      have hne : c.defaultAlias ≠ d.timeColumn.defaultAlias :=
        fun hl => htime (eq_of_defaultAlias_eq (mem_columns_of_resolveReference hc) ht hl)
      have htime' : d'.timeColumn = d.timeColumn := by cases h; rfl
      have hleft : ¬ ((d.requireTable c.table).bucket.isSome ∧
          c = (d.requireTable c.table).timeColumn) :=
        fun hc => htime hc.2
      have hright : ¬ ((d'.requireTable c.table).bucket.isSome ∧
          c = (d'.requireTable c.table).timeColumn) :=
        fun hc => htime (hc.2.trans htime')
      rw [addGroup_plain hleft, addGroup_plain hright]
      exact (h.requireTable c.table).addPlain hne

theorem addFilter (h : Ahead b d d') (f : Widget.Filter) :
    Carries (Ahead b) (d.addFilter f) (d'.addFilter f) := by
  have hparams : d'.params = d.params := by cases h; rfl
  unfold Draft.addFilter Draft.filter
  rw [hparams]
  refine Carries.bind (R := fun x y => x.1 = y.1 ∧
    ∃ c, x.2 = { d.requireTable c with params := x.2.params } ∧
      y.2 = { d'.requireTable c with params := x.2.params }) ?_ ?_
  · refine (Carries.refl _).bind fun c _ hc => ?_
    subst hc
    split
    · exact .error
    · split
      · exact .ok ⟨rfl, c.table, rfl, rfl⟩
      · exact .error
  · rintro ⟨e, x⟩ ⟨_, y⟩ ⟨rfl, table, hx, hy⟩
    dsimp only at hx hy ⊢
    rw [hx, hy]
    exact .ok ((h.requireTable table).condition [e] _)

theorem addWindow (h : Ahead b d d') (w : Timeframe) :
    Ahead b (d.addWindow w) (d'.addWindow w) := by
  unfold Draft.addWindow
  split
  · exact h
  · have hjoined := h.requireTable d.timeColumn.table
    cases h with
    | ahead => exact hjoined.condition _ _

/-- In the end there is an axis in both. -/
theorem ensureAxis (h : Ahead b d d') (he : d.ensureAxis = .ok e) :
    d'.ensureAxis = .ok d' ∧ Ahead b e d' := by
  have hright : d'.ensureAxis = .ok d' := by
    cases h with
    | ahead _ bucket =>
      unfold Draft.ensureAxis
      simp [bucket]
  refine ⟨hright, ?_⟩
  rcases ensureAxis_ok he with ⟨rfl, -⟩ | ⟨b', hb, hnone, hfree, rfl⟩
  · exact h
  · obtain rfl : b' = b := by
      cases h with
      | ahead _ bucket => exact Option.some.inj (hb.symm.trans bucket)
    exact h.setAxis hnone (setAxis_of_free hfree)

theorem finish_eq (h : Ahead b d d') (haxis : d.axis.isSome) (chartType : ChartType)
    (sort : Option SortOrder) (limit : Option Nat) :
    d'.finish chartType sort limit = { d.finish chartType sort limit with joins := d'.joins } := by
  obtain ⟨s, hs⟩ := Option.isSome_iff_exists.1 haxis
  cases h with
  | ahead =>
    unfold finish
    simp only [hs, Option.getD_some]

/-- Once there is an axis in both, they join the same. -/
theorem joins_perm (h : Ahead b d d') (haxis : d.GroupsBy d.timeColumn)
    (hleft : (d.joins.map (·.table)).Nodup) (hright : (d'.joins.map (·.table)).Nodup) :
    d'.joins.Perm d.joins := by
  refine (List.perm_ext_iff_of_nodup hright.of_map hleft.of_map).2 fun j => ?_
  cases h with
  | @ahead aliases joins time bucket steps taken joined =>
    have hpath : j ∈ joinPath d.timeColumn.table → j ∈ d.joins := by
      intro hj
      obtain ⟨j', hj', htable⟩ := List.mem_map.1 (any_table_iff.1 (haxis.joined j hj))
      rwa [← eq_of_table_eq (steps hj') (joinPath_subset _ hj) htable]
    exact (joined j).trans (or_iff_left_of_imp hpath)

end Ahead

/-- The alias that an axis is to have is taken, so that there will be none. -/
structure Barred (d : Draft) : Prop where
  bucket : d.bucket.isSome
  axis : d.axis = none
  taken : d.timeColumn.defaultAlias ∈ d.aliases

section Barred

variable {b : Bucket} {d d' e : Draft} {reference : String}

theorem Barred.addReference (h : d.Barred) (hd : d.addReference reference = .ok d') :
    d'.Barred := by
  obtain ⟨c, hc, hd⟩ := ok_of_bind hd
  refine addGroup_cases (P := Barred) (fun _ => ?_) (fun _ _ _ => ?_) (fun b htime _ _ hfree => ?_)
    hd
  · exact ⟨h.bucket, h.axis, h.taken⟩
  · exact ⟨h.bucket, h.axis, List.mem_append_left _ h.taken⟩
  · subst htime
    exact absurd h.taken hfree.fresh

theorem Barred.condition (hs : Step .condition d d') (h : d.Barred) : d'.Barred := by
  cases hs with
  | condition => exact ⟨h.bucket, h.axis, h.taken⟩

theorem not_barred_of_ensureAxis (h : d.ensureAxis = .ok e) : ¬ d.Barred := by
  intro hbarred
  rcases ensureAxis_ok h with ⟨-, haxis⟩ | ⟨b, -, -, hfree, -⟩
  · have hsome := haxis hbarred.bucket
    rw [hbarred.axis] at hsome
    cases hsome
  · exact hfree.fresh hbarred.taken

/-- The axis can be asked for where there is one already, or none yet to take its alias. -/
theorem exists_ahead (ht : d.timeColumn ∈ columns) (hkind : d.timeColumn.kind = .timestamp)
    (hb : d.bucket = some b) (hsteps : d.joins ⊆ joinSteps) (hfree : ¬ d.Barred)
    (hr : resolveReference reference = .ok d.timeColumn) :
    ∃ d', d.addReference reference = .ok d' ∧ Ahead b d d' := by
  have hjoined (j : JoinStep) : j ∈ addJoins d.joins (joinPath d.timeColumn.table) ↔
      j ∈ d.joins ∨ j ∈ joinPath d.timeColumn.table := mem_addJoins hsteps (joinPath_subset _)
  have hadd : (d.requireTable d.timeColumn.table).addGroup d.timeColumn d.timeColumn.defaultAlias =
      if d.axis.isNone then (d.requireTable d.timeColumn.table).setAxis b d.timeColumn.defaultAlias
      else .ok (d.requireTable d.timeColumn.table) :=
    addGroup_timeColumn (d := d.requireTable d.timeColumn.table) hb d.timeColumn.defaultAlias
  unfold Draft.addReference
  rw [hr]
  change ∃ d', (d.requireTable d.timeColumn.table).addGroup d.timeColumn
    d.timeColumn.defaultAlias = .ok d' ∧ _
  rw [hadd]
  cases haxis : d.axis with
  | some s =>
    have htaken (a : String) :
        a ∈ d.aliases ↔ a ∈ d.aliases ∨ d.axis = none ∧ a = d.timeColumn.defaultAlias := by
      rw [haxis]
      simp
    have hahead := Ahead.ahead ht hb hsteps htaken hjoined
    rw [haxis, Option.getD_some, ← haxis] at hahead
    exact ⟨d.requireTable d.timeColumn.table, rfl, hahead⟩
  | none =>
    have hfresh : d.timeColumn.defaultAlias ∉ d.aliases :=
      fun htaken => hfree ⟨by rw [hb]; rfl, haxis, htaken⟩
    have hset : (d.requireTable d.timeColumn.table).setAxis b d.timeColumn.defaultAlias = _ :=
      setAxis_of_free ⟨isAlias_defaultAlias ht hkind, hfresh⟩
    have htaken (a : String) : a ∈ d.aliases ++ [d.timeColumn.defaultAlias] ↔
        a ∈ d.aliases ∨ d.axis = none ∧ a = d.timeColumn.defaultAlias := by
      rw [haxis]
      simp
    have hahead := Ahead.ahead ht hb hsteps htaken hjoined
    rw [haxis, Option.getD_none, ← requireTable_joins_idem] at hahead
    exact ⟨_, hset, hahead⟩

end Barred

end Ahead

/-- What comes behind some of the groups of a definition: the other groups, the filters and the
window. -/
def rest (groups : List String) (filters : List Widget.Filter) (w : Timeframe) (d : Draft) :
    Except DefinitionError Draft := do
  let d ← groups.foldlM addReference d
  let d ← filters.foldlM addFilter d
  return d.addWindow w

section Rest

variable {b : Bucket} {d d' : Draft} {groups : List String} {filters : List Widget.Filter}
  {w : Timeframe}

theorem Ahead.rest (h : Ahead b d d') (groups : List String) (filters : List Widget.Filter)
    (w : Timeframe) :
    Carries (Ahead b) (rest groups filters w d) (rest groups filters w d') := by
  unfold Draft.rest
  refine (Carries.foldlM (fun r hd => hd.addReference r) _ h).bind fun _ _ h => ?_
  refine (Carries.foldlM (fun f hd => hd.addFilter f) _ h).bind fun _ _ h => ?_
  exact .ok (h.addWindow w)

theorem Barred.rest (h : d.Barred) (hd : rest groups filters w d = .ok d') : d'.Barred := by
  obtain ⟨d₁, hgroups, hd⟩ := ok_of_bind hd
  obtain ⟨d₂, hfilters, hd⟩ := ok_of_bind hd
  cases hd
  have h₁ : d₁.Barred := foldlM_keeps (fun _ hd hr => hd.addReference hr) h hgroups
  have h₂ : d₂.Barred := foldlM_keeps (fun _ hd hf => hd.condition (addFilter_step hf)) h₁ hfilters
  refine addWindow_keeps (P := Barred) (fun _ hd => ?_) h₂ w
  exact ⟨hd.bucket, hd.axis, hd.taken⟩

end Rest

end Draft

section Build

variable {definition : Definition} {w : Timeframe} {time : Column} {before after : List String}
  {maxLimit : Nat}
  {p : QueryPlan} {d : Draft}

open Draft in
/-- A definition, cut somewhere in its groups. -/
theorem build_cut (h : definition.groupBy = before ++ after) : build definition w time = (do
    let d ← definition.fields.foldlM addField (initial time definition.timeBucket)
    let d ← before.foldlM addReference d
    let d ← rest after definition.filters w d
    d.ensureAxis) := by
  unfold build rest
  simp only [h, List.foldlM_append, bind_assoc, pure_bind]
  rfl

/-- The checks before the build do not look at the groups. -/
theorem Passed.withGroups {chartType : ChartType} {limit : Option Nat}
    (h : Passed definition w maxLimit chartType time limit) (groups : List String) :
    Passed { definition with groupBy := groups } w maxLimit chartType time limit :=
  ⟨h.chartType, h.fields, h.window, h.time, h.limit⟩

/-- A definition compiles with other groups if these can be built. -/
theorem Compiled.withGroups {groups : List String} {d' : Draft}
    (h : Compiled definition w maxLimit p d)
    (hbuild : Plan.build { definition with groupBy := groups } w d.timeColumn = .ok d')
    (hs : d'.selects = d.selects) :
    compile { definition with groupBy := groups } w maxLimit =
      .ok (d'.finish p.chartType definition.options.sort p.limit) := by
  have hselects : ¬ d'.selects.isEmpty := by
    rw [hs, List.isEmpty_iff]
    exact h.selects
  rw [(h.passed.withGroups groups).compile_eq, hbuild]
  exact if_neg hselects

open Draft in
/-- A group that is there already can be asked for again. -/
theorem build_again {c : Column} {reference : String} (h : build definition w time = .ok d)
    (hc : definition.GroupsBy c) (hr : resolveReference reference = .ok c) :
    build { definition with groupBy := definition.groupBy ++ [reference] } w time = .ok d := by
  rw [build_cut (List.append_nil definition.groupBy).symm] at h
  obtain ⟨d₁, hfields, h⟩ := ok_of_bind h
  obtain ⟨d₂, hgroups, h⟩ := ok_of_bind h
  have hagain : d₂.addReference reference = .ok d₂ :=
    (groupsBy_of_entries hc hfields hgroups).addReference hr
  have hrest : rest [reference] definition.filters w d₂ = rest [] definition.filters w d₂ := by
    unfold rest
    rw [List.foldlM_cons, hagain]
    rfl
  have hmore :
      ({ definition with groupBy := definition.groupBy ++ [reference] } : Definition).groupBy =
      definition.groupBy ++ [reference] := rfl
  rw [build_cut hmore]
  simp only [hfields, hgroups, hrest, bind, Except.bind]
  exact h

open Draft in
/-- The axis can be asked for anywhere among the groups. -/
theorem build_ahead {b : Bucket} {reference : String} (ht : time ∈ columns)
    (hkind : time.kind = .timestamp) (hb : definition.timeBucket = some b)
    (hgroups : definition.groupBy = before ++ after) (hr : resolveReference reference = .ok time)
    (h : build definition w time = .ok d) :
    ∃ d', build { definition with groupBy := before ++ reference :: after } w time = .ok d' ∧
      Ahead b d d' := by
  rw [build_cut hgroups] at h
  obtain ⟨d₁, hfields, h⟩ := ok_of_bind h
  obtain ⟨d₂, hbefore, h⟩ := ok_of_bind h
  obtain ⟨d₃, hrest, haxis⟩ := ok_of_bind h
  have hreach : Reaches _ d₂ := (fields_reach hfields).1.trans (references_reach hbefore)
  obtain rfl : d₂.timeColumn = time := hreach.timeColumn_eq
  have hsteps : d₂.joins ⊆ joinSteps := (hreach.keeps Step.shaped (shaped_initial _ _)).joins
  have hfree : ¬ d₂.Barred := fun hbarred => not_barred_of_ensureAxis haxis (hbarred.rest hrest)
  obtain ⟨d₂', hreference, hahead⟩ :=
    exists_ahead ht hkind (hreach.bucket_eq.trans hb) hsteps hfree hr
  obtain ⟨d₃', hrest', hahead⟩ := hahead.rest after definition.filters w d₃ hrest
  obtain ⟨haxis', hahead⟩ := hahead.ensureAxis haxis
  refine ⟨d₃', ?_, hahead⟩
  have hcut : (before ++ [reference]).foldlM addReference d₁ = .ok d₂' := by
    rw [List.foldlM_append, hbefore]
    change [reference].foldlM addReference d₂ = .ok d₂'
    rw [List.foldlM_cons, hreference]
    rfl
  have hmore : ({ definition with groupBy := before ++ reference :: after } : Definition).groupBy =
      (before ++ [reference]) ++ after := List.append_cons before reference after
  rw [build_cut hmore]
  simp only [hfields, hcut, hrest', haxis', bind, Except.bind]

end Build

/-- Asking again for a group leaves a plan as it is; so does asking for the axis of a plan that has
one, wherever among the groups that is done, but for the order in which tables are joined. -/
theorem regrouped_of_compile {definition : Definition} {w : Timeframe} {maxLimit : Nat}
    {p : QueryPlan} (h : compile definition w maxLimit = .ok p) :
    (∀ reference c, resolveReference reference = .ok c → definition.GroupsBy c →
      compile { definition with groupBy := definition.groupBy ++ [reference] } w maxLimit = .ok p) ∧
    (∀ before after reference time, definition.groupBy = before ++ after →
      definition.timeBucket.isSome →
      timeColumnOf definition.options = .ok time → resolveReference reference = .ok time →
      ∃ joins, joins.Perm p.joins ∧
        compile { definition with groupBy := before ++ reference :: after } w maxLimit =
          .ok { p with joins }) := by
  obtain ⟨d, hc⟩ := compiled_of_compile h
  obtain ⟨ht, hkind⟩ := timeColumnOf_ok hc.time
  constructor
  · intro reference c hr hgroups
    rw [hc.withGroups (build_again hc.build hgroups hr) rfl, ← hc.finish]
  · intro before after reference time hgroups hbucket htime hr
    obtain ⟨b, hb⟩ := Option.isSome_iff_exists.1 hbucket
    obtain rfl : d.timeColumn = time := Except.ok.inj (hc.time.symm.trans htime)
    obtain ⟨d', hbuild, hahead⟩ := build_ahead ht hkind hb hgroups hr hc.build
    have hselects : d'.selects = d.selects := by cases hahead; rfl
    have haxis : d.axis.isSome := by
      rcases hc.axis_eq with ⟨hnone, -⟩ | ⟨b', label, -, haxis⟩
      · rw [hnone] at hb
        cases hb
      · exact Option.isSome_of_eq_some haxis
    have hjoined : d.GroupsBy d.timeColumn :=
      hc.reaches.keeps (P := Draft.AxisJoined) Draft.Step.axisJoined (fun hnone => by cases hnone)
        haxis
    have hperm := hahead.joins_perm hjoined (covered_of_build ht hc.build).linked.nodup
      (covered_of_build ht hbuild).linked.nodup
    have hp : d.joins = p.joins := (congrArg QueryPlan.joins hc.finish).symm
    refine ⟨d'.joins, hp ▸ hperm, ?_⟩
    rw [hc.withGroups hbuild hselects, hahead.finish_eq haxis, ← hc.finish]

/-- The share of severe alerts of each client, with no word of the axis. -/
def severeShareByClient : Definition := { severeShare with groupBy := ["client.name"] }

theorem regrouped_of_compile_severeShareByClient :
    ∃ p, compile severeShareByClient sinceMarch 10000 = .ok p ∧
    compile { severeShareByClient with groupBy := ["client.name", " client.name"] }
      sinceMarch 10000 = .ok p ∧
    ∃ joins, joins.Perm p.joins ∧
      compile { severeShareByClient with groupBy := ["alerts.alert_creation_time", "client.name"] }
        sinceMarch 10000 = .ok { p with joins } := by
  have h : (compile severeShareByClient sinceMarch 10000).map (·.limit) = .ok (some 25) := by
    rfl
  obtain ⟨p, hp, -⟩ := ok_of_map h
  obtain ⟨hagain, hahead⟩ := regrouped_of_compile hp
  exact ⟨p, hp, hagain " client.name" ⟨"client", "name", .text⟩ rfl
    (.inr ⟨_, List.mem_cons_self, rfl⟩),
    hahead [] ["client.name"] "alerts.alert_creation_time" defaultTimeColumn rfl rfl rfl rfl⟩

end IncidentBoard.Plan
