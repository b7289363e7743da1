import IncidentBoard.Proofs.Plan.Bucketing

/-! When a definition is refused for having neither an aggregate nor a group. -/
namespace IncidentBoard.Plan

open Sql Widget Schema

section Spares

variable {α β : Type}

/-- The computation does not refuse a definition for having no outputs. -/
def Spares (x : Except DefinitionError α) : Prop := x ≠ .error .noAggregationOrGrouping

theorem Spares.ok (a : α) : Spares (.ok a) := by
  rintro ⟨⟩

theorem Spares.error {e : DefinitionError} (h : e ≠ .noAggregationOrGrouping) :
    Spares (.error e : Except DefinitionError α) :=
  fun he => h (Except.error.inj he)

/-- Of two computations, one after the other, the one that refuses is the second if the first
spares. -/
theorem refused_of_bind {x : Except DefinitionError α} {f : α → Except DefinitionError β}
    (hx : Spares x) (h : x >>= f = .error .noAggregationOrGrouping) :
    ∃ a, x = .ok a ∧ f a = .error .noAggregationOrGrouping := by
  cases x with
  | error e => exact absurd (congrArg Except.error (Except.error.inj h)) hx
  | ok a => exact ⟨a, rfl, h⟩

theorem Spares.bind {x : Except DefinitionError α} {f : α → Except DefinitionError β}
    (hx : Spares x) (hf : ∀ a, Spares (f a)) : Spares (x >>= f) := by
  intro h
  obtain ⟨a, -, ha⟩ := refused_of_bind hx h
  exact hf a ha

theorem Spares.foldlM {σ : Type} {f : σ → α → Except DefinitionError σ}
    (step : ∀ s x, Spares (f s x)) (xs : List α) (s : σ) : Spares (xs.foldlM f s) := by
  induction xs generalizing s with
  | nil => exact .ok s
  | cons x xs ih =>
    rw [List.foldlM_cons]
    exact (step s x).bind ih

end Spares

theorem spares_validate (w : Timeframe) : Spares w.validate := by
  unfold Timeframe.validate
  split
  · split
    · exact .error nofun
    · exact .ok ()
  · exact .ok ()

theorem spares_resolve (table column : String) : Spares (resolve table column) := by
  have htable : Spares (findTable table) := by
    unfold findTable
    split
    · exact .ok _
    · exact .error nofun
  refine htable.bind fun t => ?_
  split
  · exact .ok _
  · exact .error nofun

theorem spares_resolveReference (reference : String) : Spares (resolveReference reference) := by
  unfold resolveReference
  split
  · exact spares_resolve _ _
  · exact .error nofun

theorem spares_timeColumnOf (o : Options) : Spares (timeColumnOf o) := by
  have kept (c : Column) : Spares (if c.kind = .timestamp then pure c
      else Except.error (DefinitionError.notTimestampColumn c.path)) := by
    split
    · exact .ok c
    · exact .error nofun
  unfold timeColumnOf
  split
  · exact (spares_resolveReference _).bind kept
  · exact (Spares.ok defaultTimeColumn).bind kept

theorem spares_limitOf (o : Options) (maxLimit : Nat) : Spares (limitOf o maxLimit) := by
  unfold limitOf
  split
  · exact .ok none
  · split
    · exact .ok _
    · exact .error nofun

namespace Draft

variable (d : Draft)

theorem spares_claimAlias (label : String) : Spares (d.claimAlias label) := by
  unfold claimAlias
  split
  · exact .error nofun
  · split
    · exact .error nofun
    · exact .ok _

theorem spares_setAxis (b : Bucket) (label : String) : Spares (d.setAxis b label) :=
  (spares_claimAlias _ label).bind fun _ => .ok _

theorem spares_addGroup (c : Column) (label : String) : Spares (d.addGroup c label) := by
  have hplain : Spares (addGroup.addPlain d c label) := by
    unfold addGroup.addPlain
    split
    · exact .ok d
    · exact (d.spares_claimAlias label).bind fun _ => .ok _
  unfold addGroup
  split
  · split
    · split
      · exact d.spares_setAxis _ label
      · exact .ok d
    · exact hplain
  · exact hplain

theorem spares_filter (f : Widget.Filter) : Spares (d.filter f) := by
  refine (spares_resolve _ _).bind fun c => ?_
  split
  · exact .error nofun
  · split
    · exact .ok _
    · exact .error nofun

theorem spares_filterBy (f : Option Widget.Filter) : Spares (d.filterBy f) := by
  cases f with
  | none => exact .ok _
  | some f => exact fun h => d.spares_filter f (error_of_map h)

theorem spares_addValue (c : Column) (label : String) (a : Aggregation) (condition : Option Expr) :
    Spares (d.addValue c label a condition) := by
  unfold addValue
  split
  · exact .error nofun
  · exact (d.spares_claimAlias label).bind fun _ => .ok _

theorem spares_addAggregate (c : Column) (label : String) (a : Aggregation)
    (f : Option Widget.Filter) :
    Spares (d.addAggregate c label a f) := by
  rw [addAggregate_eq]
  split
  · exact .error nofun
  · exact (d.spares_filterBy f).bind fun r => r.2.spares_addValue c label a r.1

theorem spares_addField (f : Field) : Spares (d.addField f) := by
  refine (spares_resolve _ _).bind fun c => ?_
  split
  · split
    · exact .error nofun
    · exact spares_addGroup _ _ _
  · split
    · exact .error nofun
    · exact spares_addAggregate _ _ _ _ _

theorem spares_addReference (reference : String) : Spares (d.addReference reference) :=
  (spares_resolveReference _).bind fun _ => spares_addGroup _ _ _

theorem spares_addFilter (f : Widget.Filter) : Spares (d.addFilter f) :=
  (d.spares_filter f).bind fun _ => .ok _

theorem spares_ensureAxis : Spares d.ensureAxis := by
  unfold ensureAxis
  split
  · split
    · exact d.spares_setAxis _ _
    · exact .ok d
  · exact .ok d

end Draft

theorem spares_build (definition : Definition) (w : Timeframe) (time : Column) :
    Spares (build definition w time) := by
  refine (Spares.foldlM Draft.spares_addField _ _).bind fun _ => ?_
  refine (Spares.foldlM Draft.spares_addReference _ _).bind fun _ => ?_
  refine (Spares.foldlM Draft.spares_addFilter _ _).bind fun d => ?_
  exact (d.addWindow w).spares_ensureAxis

/-- Nothing but the outputs of a draft refuses a definition for having none. -/
theorem refused_iff {definition : Definition} {w : Timeframe} {maxLimit : Nat} :
    compile definition w maxLimit = .error .noAggregationOrGrouping ↔
      ∃ chartType time limit d, Passed definition w maxLimit chartType time limit ∧
        build definition w time = .ok d ∧ d.selects = [] := by
  constructor
  · intro h
    unfold compile at h
    split at h
    · cases h
    · next chartType hchart =>
      split at h
      · cases h
      · next hfields =>
        obtain ⟨⟨⟩, hw, h⟩ := refused_of_bind (spares_validate w) h
        obtain ⟨time, ht, h⟩ := refused_of_bind (spares_timeColumnOf _) h
        obtain ⟨limit, hl, h⟩ := refused_of_bind (spares_limitOf _ _) h
        obtain ⟨d, hb, h⟩ := refused_of_bind (spares_build definition w time) h
        split at h
        · next hs =>
          have hpassed : Passed definition w maxLimit chartType time limit :=
            ⟨hchart, by simpa using hfields, hw, ht, hl⟩
          exact ⟨chartType, time, limit, d, hpassed, hb, by simpa using hs⟩
        · cases h
  · rintro ⟨chartType, time, limit, d, hpassed, hb, hs⟩
    rw [hpassed.compile_eq, hb]
    exact if_pos (by simp [hs])

/-- The filter becomes a condition, with whatever values bound before. -/
def Accepted (f : Filter) : Prop :=
  ∃ c op r, resolve f.table f.column = .ok c ∧ Operator.ofName? f.operator = some op ∧
    predicate c op f.value {} = .ok r

/-- The field stands for the bare time column. -/
def IsTime (time : Column) (f : Field) : Prop :=
  f.aggregation = none ∧ f.filter = none ∧ resolve f.table f.column = .ok time

/-- A bucketed definition in which all fields and groups are the time column, and nothing else is
wrong: its one output is the axis, under the alias that the first field gives it. -/
structure OnlyAxis (definition : Definition) (time : Column) : Prop where
  bucket : definition.timeBucket.isSome
  fields : ∀ f ∈ definition.fields, IsTime time f
  label : ∀ f ∈ definition.fields.head?, isAlias (f.label.getD time.defaultAlias)
  groupBy : ∀ r ∈ definition.groupBy, resolveReference r = .ok time
  filters : ∀ f ∈ definition.filters, Accepted f

/-- Which values a filter may have does not depend on those bound before. -/
theorem carries_predicate (c : Column) (op : Operator) (v : Json) (p q : Params) :
    Carries (fun _ _ => True) (predicate c op v p) (predicate c op v q) := by
  have compare (relation : BinOp) (v : Json) :
    Carries (fun _ _ => True) (predicate.compareWith c p relation v)
      (predicate.compareWith c q relation v) :=
    (Carries.refl _).bind fun _ _ _ => .ok trivial
  unfold predicate
  split
  · exact .ok trivial
  · exact .ok trivial
  · exact (Carries.refl _).bind fun _ _ _ => .ok trivial
  · exact (Carries.refl _).bind fun _ _ _ => .ok trivial
  · exact .error
  · exact .error
  · refine (Carries.refl _).bind fun _ _ _ => (Carries.refl _).bind fun _ _ _ => .ok trivial
  · exact .error
  · split
    · split
      · exact .ok trivial
      · exact .error
    · exact .error
  all_goals exact compare _ _

namespace Draft

variable {d d' : Draft}

/-- Outputs are never taken back. -/
theorem Step.selects_eq_nil {entry : Entry} (h : Step entry d d') (hs : d'.selects = []) :
    d.selects = [] := by
  have hgrows : d.selects <+: d'.selects := by
    cases h with
    | group => exact List.prefix_append _ _
    | value _ _ hf => cases hf <;> exact List.prefix_append _ _
    | _ => exact List.prefix_rfl
  exact List.prefix_nil.1 (hs ▸ hgrows)

theorem Outlined.grouped_eq_nil (h : d.Outlined) (hs : d.selects = []) : d.grouped = [] := by
  have hgroups := h.groups
  rw [hs] at hgroups
  exact List.map_eq_nil_iff.1 hgroups.symm

section Empty

variable (hg : d.grouped = []) (hs : d'.selects = [])
include hg hs

/-- Without an output to show for it a group is the axis. -/
theorem isTime_of_addGroup {c : Column} {label : String}
    (h : (d.requireTable c.table).addGroup c label = .ok d') :
    c = d.timeColumn ∧ d.bucket.isSome ∧ (d.axis = none → isAlias label) := by
  refine addGroup_cases (P := fun x => x.selects = [] → c = d.timeColumn ∧ d.bucket.isSome ∧
    (d.axis = none → isAlias label)) ?again ?group ?axis h hs
  case again =>
    rintro (hmem | ⟨hb, hc, haxis⟩) -
    · rw [hg] at hmem
      cases hmem
    · exact ⟨hc, hb, fun hnone => by rw [hnone] at haxis; cases haxis⟩
  case group =>
    intro _ _ _ hs
    exact absurd hs (by simp)
  case axis =>
    exact fun b hc hb _ hl _ => ⟨hc, by simp [hb], fun _ => hl.valid⟩

theorem isTime_of_addField {f : Field} (h : d.addField f = .ok d') :
    IsTime d.timeColumn f ∧ d.bucket.isSome ∧
      (d.axis = none → isAlias (f.label.getD d.timeColumn.defaultAlias)) := by
  obtain ⟨c, hc, ⟨ha, hf, h⟩ | ⟨name, a, -, -, h⟩⟩ := addField_ok h
  · obtain ⟨rfl, hb, hl⟩ := isTime_of_addGroup hg hs h
    exact ⟨⟨ha, hf, hc⟩, hb, hl⟩
  · obtain ⟨condition, d₁, e, -, -, -, rfl⟩ := addAggregate_filteredBy h
    exact absurd hs (by simp)

theorem isTime_of_addReference {reference : String} (h : d.addReference reference = .ok d') :
    resolveReference reference = .ok d.timeColumn := by
  obtain ⟨c, hc, h⟩ := ok_of_bind h
  rw [← (isTime_of_addGroup hg hs h).1]
  exact hc

end Empty

theorem accepted_of_filter {f : Widget.Filter} {r : Expr × Draft} (h : d.filter f = .ok r) :
    Accepted f := by
  obtain ⟨c, op, params, hc, hop, hp, -⟩ := filter_predicate h
  obtain ⟨r', hr', -⟩ := carries_predicate c op f.value d.params {} _ hp
  exact ⟨c, op, r', hc, hop, hr'⟩

/-- If all entries together leave no output, each of them leaves none. -/
theorem foldlM_all {α : Type} {f : Draft → α → Except DefinitionError Draft} {P : Draft → Prop}
    {Q : α → Prop}
    (step : ∀ {d x d'}, P d → f d x = .ok d' → P d' ∧ (d'.selects = [] → d.selects = [] ∧ Q x))
    {xs : List α} (hd : P d) (h : xs.foldlM f d = .ok d') (hs : d'.selects = []) :
    d.selects = [] ∧ ∀ x ∈ xs, Q x := by
  induction xs generalizing d with
  | nil =>
    cases h
    exact ⟨hs, nofun⟩
  | cons x xs ih =>
    rw [List.foldlM_cons] at h
    obtain ⟨d₁, hx, h⟩ := ok_of_bind h
    obtain ⟨hd₁, hback⟩ := step hd hx
    obtain ⟨hs₁, hxs⟩ := ih hd₁ h
    obtain ⟨hs₀, hQ⟩ := hback hs₁
    exact ⟨hs₀, List.forall_mem_cons.2 ⟨hQ, hxs⟩⟩

end Draft

section Build

variable {definition : Definition} {w : Timeframe} {time : Column} {bucket : Option Bucket}
  {d d' : Draft}

namespace Draft

theorem Reaches.grouped_eq_nil (h : (initial time bucket).Reaches d) (hs : d.selects = []) :
    d.grouped = [] :=
  (h.keeps Step.outlined (outlined_initial time bucket)).grouped_eq_nil hs

theorem isTime_of_fields {fields : List Field}
    (h : fields.foldlM addField (initial time bucket) = .ok d) (hs : d.selects = []) :
    (∀ f ∈ fields, IsTime time f ∧ bucket.isSome) ∧
      ∀ f ∈ fields.head?, isAlias (f.label.getD time.defaultAlias) := by
  have rest {d d' : Draft} {fields : List Field}
      (hd : (initial time bucket).Reaches d ∧ d.predicates = [])
      (h : fields.foldlM addField d = .ok d') (hs : d'.selects = []) :
      d.selects = [] ∧ ∀ f ∈ fields, IsTime time f ∧ bucket.isSome := by
    refine foldlM_all (P := fun x => (initial time bucket).Reaches x ∧ x.predicates = [])
      (fun hx hf => ?_) hd h hs
    have hstep := addField_step hx.2 hf
    refine ⟨⟨hx.1.tail ⟨_, hstep⟩, hstep.predicates_eq.trans hx.2⟩, fun hs' => ?_⟩
    have hs₀ := hstep.selects_eq_nil hs'
    obtain ⟨htime, hb, -⟩ := isTime_of_addField (hx.1.grouped_eq_nil hs₀) hs' hf
    rw [hx.1.timeColumn_eq] at htime
    rw [hx.1.bucket_eq] at hb
    exact ⟨hs₀, htime, hb⟩
  refine ⟨(rest ⟨.refl, rfl⟩ h hs).2, fun f hf => ?_⟩
  -- The first field finds no axis and is the one to name it.
  cases fields with
  | nil => cases hf
  | cons f' fields =>
    cases hf
    rw [List.foldlM_cons] at h
    obtain ⟨d₁, hfirst, h⟩ := ok_of_bind h
    have hstep := addField_step rfl hfirst
    obtain ⟨hs₁, -⟩ := rest ⟨hstep.reaches, hstep.predicates_eq⟩ h hs
    exact (isTime_of_addField rfl hs₁ hfirst).2.2 rfl

theorem isTime_of_groups {references : List String} (hd : (initial time bucket).Reaches d)
    (h : references.foldlM addReference d = .ok d') (hs : d'.selects = []) :
    d.selects = [] ∧ ∀ r ∈ references, resolveReference r = .ok time := by
  refine foldlM_all (P := (initial time bucket).Reaches) (fun hx hr => ?_) hd h hs
  have hstep := addReference_step hr
  refine ⟨hx.tail ⟨_, hstep⟩, fun hs' => ?_⟩
  have hs₀ := hstep.selects_eq_nil hs'
  have htime := isTime_of_addReference (hx.grouped_eq_nil hs₀) hs' hr
  rw [hx.timeColumn_eq] at htime
  exact ⟨hs₀, htime⟩

theorem accepted_of_filters {filters : List Widget.Filter} (h : filters.foldlM addFilter d = .ok d')
    (hs : d'.selects = []) : d.selects = [] ∧ ∀ f ∈ filters, Accepted f := by
  refine foldlM_all (P := fun _ => True) (fun _ hf => ⟨trivial, fun hs' => ?_⟩) trivial h hs
  obtain ⟨r, hr, -⟩ := ok_of_bind hf
  exact ⟨(addFilter_step hf).selects_eq_nil hs', accepted_of_filter hr⟩

end Draft

open Draft in
theorem onlyAxis_of_build (h : build definition w time = .ok d) (hne : definition.fields ≠ [])
    (hs : d.selects = []) : OnlyAxis definition time := by
  obtain ⟨d₁, hfields, h⟩ := ok_of_bind h
  obtain ⟨d₂, hgroups, h⟩ := ok_of_bind h
  obtain ⟨d₃, hfilters, h⟩ := ok_of_bind h
  have hs₃ : d₃.selects = [] := by
    have hwindow : (d₃.addWindow w).selects = d₃.selects := by
      unfold addWindow
      split <;> rfl
    rw [← hwindow, ← hs]
    rcases ensureAxis_ok h with ⟨rfl, -⟩ | ⟨b, -, -, -, rfl⟩ <;> rfl
  obtain ⟨hs₂, hfilters⟩ := accepted_of_filters hfilters hs₃
  obtain ⟨hs₁, hgroups⟩ := isTime_of_groups (fields_reach hfields).1 hgroups hs₂
  obtain ⟨hall, hlabel⟩ := isTime_of_fields hfields hs₁
  obtain ⟨f, hf⟩ := List.exists_mem_of_ne_nil _ hne
  exact ⟨(hall f hf).2, fun f hf => (hall f hf).1, hlabel, hgroups, hfilters⟩

namespace Draft

/-- A draft of which the axis is all there is to show. -/
structure Settled (time : Column) (d : Draft) : Prop where
  time : d.timeColumn = time
  bucket : d.bucket.isSome
  axis : d.axis.isSome
  selects : d.selects = []

/-- The time column settles a draft of which nothing is to be shown, and leaves it settled. -/
theorem settled_of_addGroup {label : String} (ht : d.timeColumn = time) (hb : d.bucket.isSome)
    (hs : d.selects = []) (hl : d.axis = none → d.Free label) :
    ∃ d', (d.requireTable time.table).addGroup time label = .ok d' ∧ d'.Settled time := by
  subst ht
  obtain ⟨b, hb⟩ := Option.isSome_iff_exists.1 hb
  have haxis : (d.requireTable d.timeColumn.table).addGroup d.timeColumn label =
      if d.axis.isNone then (d.requireTable d.timeColumn.table).setAxis b label
      else .ok (d.requireTable d.timeColumn.table) := by
    unfold addGroup
    simp [requireTable, hb]
  rw [haxis]
  cases h : d.axis with
  | none =>
    have hfree : (d.requireTable d.timeColumn.table).Free label := ⟨(hl h).valid, (hl h).fresh⟩
    exact ⟨_, setAxis_of_free hfree, rfl, by simp [requireTable, hb], rfl, hs⟩
  | some s => exact ⟨_, rfl, rfl, by simp [requireTable, hb], by simp [requireTable, h], hs⟩

theorem addField_of_isTime {f : Field} (h : IsTime time f) : d.addField f =
    (d.requireTable time.table).addGroup time (f.label.getD time.defaultAlias) := by
  unfold addField
  rw [h.2.2]
  simp [h.1, h.2.1, bind, Except.bind]

namespace Settled

theorem addGroup (h : d.Settled time) (label : String) :
    ∃ d', (d.requireTable time.table).addGroup time label = .ok d' ∧ d'.Settled time := by
  refine settled_of_addGroup h.time h.bucket h.selects fun hnone => ?_
  have haxis := h.axis
  rw [hnone] at haxis
  cases haxis

theorem addField {f : Field} (h : d.Settled time) (hf : IsTime time f) :
    ∃ d', d.addField f = .ok d' ∧ d'.Settled time := by
  rw [addField_of_isTime hf]
  exact h.addGroup _

theorem addReference {reference : String} (h : d.Settled time)
    (hr : resolveReference reference = .ok time) :
    ∃ d', d.addReference reference = .ok d' ∧ d'.Settled time := by
  unfold Draft.addReference
  rw [hr]
  exact h.addGroup _

theorem addFilter {f : Widget.Filter} (h : d.Settled time) (hf : Accepted f) :
    ∃ d', d.addFilter f = .ok d' ∧ d'.Settled time := by
  obtain ⟨c, op, r, hc, hop, hr⟩ := hf
  obtain ⟨⟨e, params⟩, hp, -⟩ := carries_predicate c op f.value {} d.params r hr
  unfold Draft.addFilter Draft.filter
  rw [hc]
  simp only [hop, hp, bind, Except.bind]
  exact ⟨_, rfl, h.time, h.bucket, h.axis, h.selects⟩

theorem addWindow (h : d.Settled time) (w : Timeframe) : (d.addWindow w).Settled time := by
  unfold Draft.addWindow
  split
  · exact h
  · exact ⟨h.time, h.bucket, h.axis, h.selects⟩

theorem ensureAxis (h : d.Settled time) : d.ensureAxis = .ok d := by
  obtain ⟨b, hb⟩ := Option.isSome_iff_exists.1 h.bucket
  obtain ⟨s, hs⟩ := Option.isSome_iff_exists.1 h.axis
  unfold Draft.ensureAxis
  rw [hb, hs]
  rfl

end Settled

/-- Entries that all go through, one after the other. -/
theorem foldlM_total {α : Type} {f : Draft → α → Except DefinitionError Draft} {P : Draft → Prop}
    {xs : List α} (step : ∀ {d x}, x ∈ xs → P d → ∃ d', f d x = .ok d' ∧ P d') (hd : P d) :
    ∃ d', xs.foldlM f d = .ok d' ∧ P d' := by
  induction xs generalizing d with
  | nil => exact ⟨d, rfl, hd⟩
  | cons x xs ih =>
    obtain ⟨d₁, hx, hd₁⟩ := step List.mem_cons_self hd
    rw [List.foldlM_cons, hx]
    exact ih (fun hx' => step (List.mem_cons_of_mem _ hx')) hd₁

theorem settled_of_fields {fields : List Field} {bucket : Option Bucket} (hb : bucket.isSome)
    (hne : fields ≠ []) (hall : ∀ f ∈ fields, IsTime time f)
    (hlabel : ∀ f ∈ fields.head?, isAlias (f.label.getD time.defaultAlias)) :
    ∃ d, fields.foldlM addField (initial time bucket) = .ok d ∧ d.Settled time := by
  cases fields with
  | nil => exact absurd rfl hne
  | cons f fields =>
    obtain ⟨hf, hrest⟩ := List.forall_mem_cons.1 hall
    have hfirst : ∃ d, (initial time bucket).addField f = .ok d ∧ d.Settled time := by
      rw [addField_of_isTime hf]
      exact settled_of_addGroup rfl hb rfl fun _ => ⟨hlabel f rfl, nofun⟩
    obtain ⟨d₁, hd₁, hsettled⟩ := hfirst
    rw [List.foldlM_cons, hd₁]
    exact foldlM_total (fun hx hd => hd.addField (hrest _ hx)) hsettled

end Draft

open Draft in
theorem settled_of_build (h : OnlyAxis definition time) (hne : definition.fields ≠ []) :
    ∃ d, build definition w time = .ok d ∧ d.Settled time := by
  obtain ⟨d₁, hfields, h₁⟩ := settled_of_fields h.bucket hne h.fields h.label
  obtain ⟨d₂, hgroups, h₂⟩ := foldlM_total (fun hr hd => hd.addReference (h.groupBy _ hr)) h₁
  obtain ⟨d₃, hfilters, h₃⟩ := foldlM_total (fun hf hd => hd.addFilter (h.filters _ hf)) h₂
  have h₄ := h₃.addWindow w
  refine ⟨d₃.addWindow w, ?_, h₄⟩
  have hentries : entries definition w (.initial time definition.timeBucket) =
      .ok (d₃.addWindow w) := by
    simp only [entries, hfields, hgroups, hfilters, bind, Except.bind]
    rfl
  rw [build_eq, hentries]
  exact h₄.ensureAxis

end Build

/-- A definition is refused for having neither an aggregate nor a group exactly if it has a bucket
and all its fields and groups are the bare time column. It always has a group then: the axis that
the first field became. -/
theorem compile_eq_noAggregationOrGrouping_iff {definition : Definition} {w : Timeframe}
    {maxLimit : Nat} :
    compile definition w maxLimit = .error .noAggregationOrGrouping ↔
      ∃ chartType time limit, Passed definition w maxLimit chartType time limit ∧
        OnlyAxis definition time ∧
        ∃ d, build definition w time = .ok d ∧ d.axis.isSome := by
  rw [refused_iff]
  constructor
  · rintro ⟨chartType, time, limit, d, hpassed, hb, hs⟩
    have haxis := onlyAxis_of_build hb hpassed.fields hs
    obtain ⟨d', hb', hsettled⟩ := settled_of_build haxis hpassed.fields
    exact ⟨chartType, time, limit, hpassed, haxis, d', hb', hsettled.axis⟩
  · rintro ⟨chartType, time, limit, hpassed, haxis, -⟩
    obtain ⟨d, hb, hsettled⟩ := settled_of_build haxis hpassed.fields
    exact ⟨chartType, time, limit, d, hpassed, hb, hsettled.selects⟩

/-- The days on which there were alerts. -/
def alertDays : Definition where
  chartType := some .bar
  fields := [⟨"alerts", "alert_creation_time", none, none, none⟩]
  timeBucket := some .day

/-- The days are the axis of the draft, and yet there is said to be no group. -/
theorem exists_axis_alertDays :
    compile alertDays ⟨none, none⟩ 10000 = .error .noAggregationOrGrouping ∧
      ∃ d, build alertDays ⟨none, none⟩ defaultTimeColumn = .ok d ∧ d.axis.isSome := by
  have hcompile : (compile alertDays ⟨none, none⟩ 10000).map (·.selectLabels) =
      .error .noAggregationOrGrouping := by
    rfl
  have hbuild : (build alertDays ⟨none, none⟩ defaultTimeColumn).map (·.axis.isSome) =
      .ok true := by
    rfl
  obtain ⟨d, hd, haxis⟩ := ok_of_map hbuild
  exact ⟨error_of_map hcompile, d, hd, haxis⟩

end IncidentBoard.Plan
