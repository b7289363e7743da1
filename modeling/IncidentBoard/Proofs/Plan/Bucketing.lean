import IncidentBoard.Proofs.Plan.Rows

/-! What a bucket changes of a plan. -/
namespace IncidentBoard.Plan

open Sql Widget Schema

section Carries

variable {ε α β γ δ : Type} {R : α → β → Prop} {S : γ → δ → Prop}

/-- If the first computation has a result, the second has one as well, which is related to it. -/
def Carries (R : α → β → Prop) (x : Except ε α) (y : Except ε β) : Prop :=
  ∀ a, x = .ok a → ∃ b, y = .ok b ∧ R a b

theorem Carries.refl (x : Except ε α) : Carries (· = ·) x x := fun a ha => ⟨a, ha, rfl⟩

theorem Carries.ok {a : α} {b : β} (h : R a b) : Carries R (.ok a : Except ε α) (.ok b) := by
  rintro _ ⟨⟩
  exact ⟨b, rfl, h⟩

theorem Carries.error {e : ε} {y : Except ε β} : Carries R (.error e) y := by
  rintro _ ⟨⟩

theorem Carries.bind {x : Except ε α} {y : Except ε β} {f : α → Except ε γ} {g : β → Except ε δ}
    (h : Carries R x y) (hfg : ∀ a b, R a b → Carries S (f a) (g b)) :
    Carries S (x >>= f) (y >>= g) := by
  intro c hc
  obtain ⟨a, hx, hc⟩ := ok_of_bind hc
  obtain ⟨b, rfl, hab⟩ := h a hx
  exact hfg a b hab c hc

theorem Carries.map {x : Except ε α} {y : Except ε β} {f : α → γ} {g : β → δ} (h : Carries R x y)
    (hfg : ∀ a b, R a b → S (f a) (g b)) : Carries S (x.map f) (y.map g) := by
  cases x with
  | error e => exact .error
  | ok a =>
    obtain ⟨b, rfl, hab⟩ := h a rfl
    exact .ok (hfg a b hab)

/-- The same entries, one after the other. -/
theorem Carries.foldlM {σ τ : Type} {R : σ → τ → Prop} {f : σ → α → Except ε σ}
    {g : τ → α → Except ε τ} (step : ∀ {s t} x, R s t → Carries R (f s x) (g t x)) (xs : List α)
    {s : σ} {t : τ} (h : R s t) :
    Carries R (xs.foldlM f s) (xs.foldlM g t) := by
  induction xs generalizing s t with
  | nil => exact .ok h
  | cons x xs ih =>
    rw [List.foldlM_cons, List.foldlM_cons]
    exact (step x h).bind fun _ _ => ih

end Carries

namespace Draft

/-- A column that is grouped by as it is, as an output. -/
def plainOf (c : Column) (label : String) : Select := ⟨c.expr, label, .group, some c.kind⟩

/-- A draft without a bucket, and what it is with one: the same, or with the output of the time
column turned into the axis. -/
inductive Bucketed (b : Bucket) (time : Column) : Draft → Draft → Prop
  | same {d : Draft} (htime : d.timeColumn = time) (hplain : d.bucket = none)
      (haxis : d.axis = none)
      (hnew : time ∉ d.grouped) : Bucketed b time d { d with bucket := some b }
  | turned {d : Draft} {label : String} {left right : List Select} {before behind : List Column}
      (htime : d.timeColumn = time) (hplain : d.bucket = none) (haxis : d.axis = none)
      (hselects : d.selects = left ++ plainOf time label :: right)
      (hgrouped : d.grouped = before ++ time :: behind) :
    Bucketed b time d { d with
      bucket := some b
      axis := some (axisOf time b label)
      selects := left ++ right
      grouped := before ++ behind }

theorem claimAlias_of_free {d : Draft} {label : String} (h : d.Free label) :
    d.claimAlias label = .ok { d with aliases := d.aliases ++ [label] } := by
  have hfresh : ¬ d.aliases.contains label := fun hc => h.fresh (List.contains_iff_mem.1 hc)
  rw [claimAlias, if_neg (by simp [h.valid]), if_neg hfresh]

theorem claimAlias_of_taken {d : Draft} {label : String} (hvalid : isAlias label)
    (htaken : label ∈ d.aliases) :
    d.claimAlias label = .error (.duplicateAlias label) := by
  rw [claimAlias, if_neg (by simp [hvalid]), if_pos (List.contains_iff_mem.2 htaken)]

theorem setAxis_of_free {d : Draft} {b : Bucket} {label : String} (h : d.Free label) :
    d.setAxis b label = .ok { d.requireTable d.timeColumn.table with
      aliases := d.aliases ++ [label]
      axis := some (axisOf d.timeColumn b label) } := by
  have hclaim : (d.requireTable d.timeColumn.table).claimAlias label = _ :=
    claimAlias_of_free ⟨h.valid, h.fresh⟩
  rw [setAxis, hclaim]
  rfl

theorem setAxis_of_taken {d : Draft} {b : Bucket} {label : String} (hvalid : isAlias label)
    (htaken : label ∈ d.aliases) : d.setAxis b label = .error (.duplicateAlias label) := by
  have hclaim : (d.requireTable d.timeColumn.table).claimAlias label = _ :=
    claimAlias_of_taken hvalid htaken
  rw [setAxis, hclaim]
  rfl

namespace Bucketed

variable {b : Bucket} {time : Column} {d d' : Draft}

theorem time_eq (h : Bucketed b time d d') : d.timeColumn = time := by
  cases h <;> assumption

theorem bucket_eq (h : Bucketed b time d d') : d.bucket = none := by
  cases h <;> assumption

/-- The two differ in their outputs and groups only. -/
theorem eq_with (h : Bucketed b time d d') : d' = { d with
    bucket := some b
    axis := d'.axis
    selects := d'.selects
    grouped := d'.grouped } := by
  cases h <;> rfl

theorem values_eq (h : Bucketed b time d d') : d'.values = d.values := by
  cases h with
  | same => rfl
  | turned _ _ _ hselects => simp [values, hselects, List.filter_append, plainOf]

theorem mem_grouped (h : Bucketed b time d d') {c : Column} (hc : c ≠ time) :
    c ∈ d'.grouped ↔ c ∈ d.grouped := by
  cases h with
  | same => rfl
  | turned _ _ _ _ hgrouped => simp [hgrouped, hc]

/-- What is no output does not tell them apart. -/
theorem touch (h : Bucketed b time d d') (aliases : List String) (joins : List JoinStep)
    (predicates : List Expr) (params : Params) :
    Bucketed b time { d with aliases, joins, predicates, params }
      { d' with aliases, joins, predicates, params } := by
  cases h with
  | same htime hplain haxis hnew => exact .same htime hplain haxis hnew
  | turned htime hplain haxis hselects hgrouped =>
    exact .turned htime hplain haxis hselects hgrouped

theorem output (h : Bucketed b time d d') (s : Select) :
    Bucketed b time { d with selects := d.selects ++ [s] }
      { d' with selects := d'.selects ++ [s] } := by
  cases h with
  | same htime hplain haxis hnew => exact .same htime hplain haxis hnew
  | turned htime hplain haxis hselects hgrouped =>
    rw [List.append_assoc]
    exact .turned htime hplain haxis (by simp [hselects]) hgrouped

theorem group (h : Bucketed b time d d') {c : Column} (hc : c ≠ time) :
    Bucketed b time { d with grouped := d.grouped ++ [c] }
      { d' with grouped := d'.grouped ++ [c] } := by
  cases h with
  | same htime hplain haxis hnew => exact .same htime hplain haxis (by simpa [hc.symm] using hnew)
  | turned htime hplain haxis hselects hgrouped =>
    rw [List.append_assoc]
    exact .turned htime hplain haxis hselects (by simp [hgrouped])

theorem requireTable (h : Bucketed b time d d') (table : String) :
    Bucketed b time (d.requireTable table) (d'.requireTable table) := by
  have htouch := h.touch d.aliases (addJoins d.joins (joinPath table)) d.predicates d.params
  rw [h.eq_with] at htouch ⊢
  exact htouch

theorem bind (h : Bucketed b time d d') (params : Params) :
    Bucketed b time { d with params } { d' with params } := by
  have htouch := h.touch d.aliases d.joins d.predicates params
  rw [h.eq_with] at htouch ⊢
  exact htouch

theorem condition (h : Bucketed b time d d') (es : List Expr) :
    Bucketed b time { d with predicates := d.predicates ++ es }
      { d' with predicates := d'.predicates ++ es } := by
  have htouch := h.touch d.aliases d.joins (d.predicates ++ es) d.params
  rw [h.eq_with] at htouch ⊢
  exact htouch

theorem claimAlias (h : Bucketed b time d d') (label : String) :
    Carries (Bucketed b time) (d.claimAlias label) (d'.claimAlias label) := by
  have htouch := h.touch (d.aliases ++ [label]) d.joins d.predicates d.params
  rw [h.eq_with] at htouch ⊢
  unfold Draft.claimAlias
  dsimp only
  split
  · exact .error
  · split
    · exact .error
    · exact .ok htouch

theorem addPlain (h : Bucketed b time d d') {c : Column} (hc : c ≠ time) (label : String) :
    Carries (Bucketed b time) (addGroup.addPlain d c label) (addGroup.addPlain d' c label) := by
  have hmem : d'.grouped.contains c = d.grouped.contains c := by
    rw [Bool.eq_iff_iff, List.contains_iff_mem, List.contains_iff_mem, h.mem_grouped hc]
  unfold addGroup.addPlain
  rw [hmem]
  split
  · exact .ok h
  · exact (h.claimAlias label).bind fun e e' he => .ok ((he.output _).group hc)

/-- Where the plain draft groups by the time column, the other has its axis. -/
theorem addTime (h : Bucketed b time d d') (label : String) :
    Carries (Bucketed b time) (addGroup.addPlain (d.requireTable time.table) time label)
      ((d'.requireTable time.table).addGroup time label) := by
  intro e he
  refine addPlain_cases
    (P := fun e => ∃ e', (d'.requireTable time.table).addGroup time label = .ok e' ∧
      Bucketed b time e e') (fun hmem => ?_) (fun hnew hl => ?_) he
  · refine ⟨d'.requireTable time.table, ?_, h.requireTable time.table⟩
    cases h with
    | same _ _ _ hnew => exact absurd hmem hnew
    | turned htime => exact if_pos htime.symm
  · cases h with
    | same htime hplain haxis =>
      subst htime
      have hfree : ({ d with bucket := some b }.requireTable d.timeColumn.table).Free label :=
        ⟨hl.valid, hl.fresh⟩
      have haxis' : ({ d with bucket := some b }.requireTable d.timeColumn.table).addGroup
          d.timeColumn label =
          ({ d with bucket := some b }.requireTable d.timeColumn.table).setAxis b label := by
        unfold Draft.addGroup
        simp [Draft.requireTable, haxis]
      have hturned := Bucketed.turned (b := b) (d := { d.requireTable d.timeColumn.table with
        aliases := d.aliases ++ [label]
        grouped := d.grouped ++ [d.timeColumn]
        selects := d.selects ++ [plainOf d.timeColumn label] }) rfl hplain haxis rfl rfl
      rw [List.append_nil, List.append_nil] at hturned
      refine ⟨_, haxis'.trans (setAxis_of_free hfree), ?_⟩
      have hidem := requireTable_joins_idem d d.timeColumn.table
      unfold Draft.requireTable at hturned ⊢
      dsimp only at hturned ⊢
      rw [hidem]
      exact hturned
    | turned _ _ _ _ hgrouped => exact absurd (by simp [hgrouped]) hnew

/-- A group other than the time column is one in both. -/
theorem addGroup (h : Bucketed b time d d') (c : Column) (label : String) :
    Carries (Bucketed b time) ((d.requireTable c.table).addGroup c label)
      ((d'.requireTable c.table).addGroup c label) := by
  have hplain : (d.requireTable c.table).addGroup c label =
      addGroup.addPlain (d.requireTable c.table) c label := by
    unfold Draft.addGroup
    rw [(h.requireTable c.table).bucket_eq]
  rw [hplain]
  by_cases hc : c = time
  · subst hc
    exact h.addTime label
  · have hother : (d'.requireTable c.table).addGroup c label =
        addGroup.addPlain (d'.requireTable c.table) c label := by
      rw [h.eq_with]
      exact if_neg (h.time_eq ▸ hc)
    rw [hother]
    exact (h.requireTable c.table).addPlain hc label

theorem filter (h : Bucketed b time d d') (f : Widget.Filter) :
    Carries (fun x y => x.1 = y.1 ∧ Bucketed b time x.2 y.2) (d.filter f) (d'.filter f) := by
  unfold Draft.filter
  refine (Carries.refl _).bind fun c _ hc => ?_
  subst hc
  cases Operator.ofName? f.operator with
  | none => exact .error
  | some op =>
    have hparams : d'.params = d.params := by rw [h.eq_with]
    dsimp only
    rw [hparams]
    cases predicate c op f.value d.params with
    | error fault => exact .error
    | ok r => exact .ok ⟨rfl, (h.requireTable c.table).bind r.2⟩

theorem filterBy (h : Bucketed b time d d') (f : Option Widget.Filter) :
    Carries (fun x y => x.1 = y.1 ∧ Bucketed b time x.2 y.2) (d.filterBy f) (d'.filterBy f) := by
  cases f with
  | none => exact .ok ⟨rfl, h⟩
  | some f => exact (h.filter f).map fun x y hxy => ⟨congrArg some hxy.1, hxy.2⟩

theorem addValue (h : Bucketed b time d d') (c : Column) (label : String) (a : Aggregation)
    (condition : Option Expr) :
    Carries (Bucketed b time) (d.addValue c label a condition)
      (d'.addValue c label a condition) := by
  unfold Draft.addValue
  cases aggregate? a c.expr condition with
  | none => exact .error
  | some e => exact (h.claimAlias label).bind fun _ _ hx => .ok (hx.output _)

theorem addAggregate (h : Bucketed b time d d') (c : Column) (label : String) (a : Aggregation)
    (f : Option Widget.Filter) :
    Carries (Bucketed b time) (d.addAggregate c label a f) (d'.addAggregate c label a f) := by
  rw [addAggregate_eq, addAggregate_eq]
  split
  · exact .error
  · refine (h.filterBy f).bind ?_
    rintro ⟨condition, x⟩ ⟨_, y⟩ ⟨rfl, hxy⟩
    exact hxy.addValue c label a condition

theorem addField (h : Bucketed b time d d') (f : Field) :
    Carries (Bucketed b time) (d.addField f) (d'.addField f) := by
  unfold Draft.addField
  refine (Carries.refl _).bind fun c _ hc => ?_
  subst hc
  dsimp only
  split
  · split
    · exact .error
    · exact h.addGroup c _
  · split
    · exact .error
    · exact (h.requireTable c.table).addAggregate c _ _ _

theorem addReference (h : Bucketed b time d d') (reference : String) :
    Carries (Bucketed b time) (d.addReference reference) (d'.addReference reference) := by
  unfold Draft.addReference
  refine (Carries.refl _).bind fun c _ hc => ?_
  subst hc
  exact h.addGroup c _

theorem addFilter (h : Bucketed b time d d') (f : Widget.Filter) :
    Carries (Bucketed b time) (d.addFilter f) (d'.addFilter f) := by
  unfold Draft.addFilter
  refine (h.filter f).bind ?_
  rintro ⟨e, x⟩ ⟨_, y⟩ ⟨rfl, hxy⟩
  exact .ok (hxy.condition [e])

theorem addWindow (h : Bucketed b time d d') (w : Timeframe) :
    Bucketed b time (d.addWindow w) (d'.addWindow w) := by
  unfold Draft.addWindow
  split
  · exact h
  · cases h with
    | same htime hplain haxis hnew => exact .same htime hplain haxis hnew
    | turned htime hplain haxis hselects hgrouped =>
      exact .turned htime hplain haxis hselects hgrouped

end Bucketed

end Draft

open Draft in
/-- The entries of a definition; all that is left to do then is to see that there is an axis. -/
def entries (definition : Definition) (w : Timeframe) (d : Draft) :
    Except DefinitionError Draft := do
  let d ← definition.fields.foldlM addField d
  let d ← definition.groupBy.foldlM addReference d
  let d ← definition.filters.foldlM addFilter d
  return d.addWindow w

theorem build_eq (definition : Definition) (w : Timeframe) (time : Column) :
    build definition w time = entries definition w (.initial time definition.timeBucket) >>=
      Draft.ensureAxis := by
  unfold build entries
  simp only [bind_assoc, pure_bind]
  rfl

theorem Draft.Bucketed.entries {b : Bucket} {time : Column} {d d' : Draft}
    (h : Bucketed b time d d') (definition : Definition) (w : Timeframe) :
    Carries (Bucketed b time) (entries definition w d) (entries definition w d') := by
  unfold Plan.entries
  refine (Carries.foldlM (fun f hd => hd.addField f) _ h).bind fun _ _ h => ?_
  refine (Carries.foldlM (fun r hd => hd.addReference r) _ h).bind fun _ _ h => ?_
  refine (Carries.foldlM (fun f hd => hd.addFilter f) _ h).bind fun _ _ h => ?_
  exact .ok (h.addWindow w)

theorem isAlias_defaultAlias {c : Column} (hc : c ∈ columns) (hkind : c.kind = .timestamp) :
    isAlias c.defaultAlias := by
  have hall : (columns.filter (·.kind == .timestamp)).all fun c => isAlias c.defaultAlias := by
    rfl
  exact List.all_eq_true.1 hall c (List.mem_filter.2 ⟨hc, beq_iff_eq.2 hkind⟩)

namespace Draft

/-- What the axis in front of the other outputs makes of `selects`: they are the same, without the
output of the time column if there was one. -/
def AxisOver (time : Column) (label : String) (selects rest : List Select) : Prop :=
  selects = rest ∨ ∃ left right, selects = left ++ plainOf time label :: right ∧
    rest = left ++ right

/-- An axis that is not there yet takes the default alias of the time column, if no other output has
it. -/
theorem Bucketed.ensureAxis {b : Bucket} {time : Column} {d d' : Draft} (h : Bucketed b time d d')
    (ht : time ∈ columns) (hkind : time.kind = .timestamp) :
    (time ∈ d.grouped ∨ time.defaultAlias ∉ d.aliases → ∃ e label, d'.ensureAxis = .ok e ∧
      e.axis = some (axisOf time b label) ∧ AxisOver time label d.selects e.selects ∧
      e.values = d.values ∧ e.predicates = d.predicates ∧ e.params = d.params) ∧
    (time ∉ d.grouped → time.defaultAlias ∈ d.aliases →
      d'.ensureAxis = .error (.duplicateAlias time.defaultAlias)) := by
  have hvalues := h.values_eq
  cases h with
  | same htime hplain haxis hnew =>
    subst htime
    have hset : ({ d with bucket := some b } : Draft).ensureAxis =
        ({ d with bucket := some b } : Draft).setAxis b d.timeColumn.defaultAlias := by
      simp [Draft.ensureAxis, haxis]
    rw [hset]
    have hvalid := isAlias_defaultAlias ht hkind
    refine ⟨fun hfree => ?_, fun _ htaken => setAxis_of_taken hvalid htaken⟩
    have hfresh := hfree.resolve_left hnew
    exact ⟨_, _, setAxis_of_free ⟨hvalid, hfresh⟩, rfl, .inl rfl, rfl, rfl, rfl⟩
  | @turned label left right _ _ htime hplain haxis hselects hgrouped =>
    refine ⟨fun _ => ⟨_, label, rfl, rfl, .inr ⟨left, right, hselects, rfl⟩, hvalues, rfl, rfl⟩,
      fun hnew => ?_⟩
    exact absurd (by simp [hgrouped]) hnew

end Draft

section Compiled

variable {definition : Definition} {w : Timeframe} {maxLimit : Nat} {p : QueryPlan} {d : Draft}

/-- The checks before the build do not look at the bucket. -/
theorem Passed.withBucket {chartType : ChartType} {time : Column} {limit : Option Nat}
    (h : Passed definition w maxLimit chartType time limit) (b : Bucket) :
    Passed { definition with timeBucket := some b } w maxLimit chartType time limit :=
  ⟨h.chartType, h.fields, h.window, h.time, h.limit⟩

/-- After its entries a definition compiles if there is an axis for it. -/
theorem Passed.compile_of_entries {chartType : ChartType} {time : Column} {limit : Option Nat}
    {b : Option Bucket}
    (h : Passed { definition with timeBucket := b } w maxLimit chartType time limit)
    (hd : entries definition w (.initial time b) = .ok d) :
    compile { definition with timeBucket := b } w maxLimit = (do
      let e ← d.ensureAxis
      if e.selects.isEmpty then .error .noAggregationOrGrouping
      else .ok (e.finish chartType definition.options.sort limit)) := by
  have hentries : entries { definition with timeBucket := b } w (.initial time b) = .ok d := hd
  rw [h.compile_eq, build_eq, hentries]
  rfl

/-- Without a bucket nothing comes after the entries. -/
theorem Compiled.entries_eq (h : Compiled definition w maxLimit p d)
    (hplain : definition.timeBucket = none) :
    entries definition w (.initial d.timeColumn none) = .ok d := by
  have hbucket : d.bucket = none := h.reaches.bucket_eq.trans hplain
  have hbuild := h.build
  rw [build_eq, hplain] at hbuild
  obtain ⟨d₁, hentries, hlast⟩ := ok_of_bind hbuild
  rcases Draft.ensureAxis_ok hlast with ⟨rfl, -⟩ | ⟨b, hb, -, -, rfl⟩
  · exact hentries
  · exact absurd (hb.symm.trans hbucket) nofun

theorem Compiled.axis_eq_none (h : Compiled definition w maxLimit p d)
    (hplain : definition.timeBucket = none) :
    d.axis = none := by
  rcases h.axis_eq with ⟨-, haxis⟩ | ⟨b, label, hb, -⟩
  · exact haxis
  · rw [hplain] at hb
    cases hb

theorem Compiled.selects_eq (h : Compiled definition w maxLimit p d)
    (hplain : definition.timeBucket = none) :
    p.selects = d.selects := by
  rw [h.finish, Draft.finish, h.axis_eq_none hplain]
  rfl

/-- Without a bucket the groups of a plan are the columns that are grouped by. -/
theorem Compiled.mem_groupBy_iff (h : Compiled definition w maxLimit p d)
    (hplain : definition.timeBucket = none) {c : Column} (hc : c ∈ columns) :
    c.expr ∈ p.groupBy ↔ c ∈ d.grouped := by
  have hout := h.outlined_draft
  have hgroups : p.groupBy = d.grouped.map Column.expr := by
    rw [h.finish]
    exact hout.groupBy_eq.trans (by simp [h.axis_eq_none hplain])
  rw [hgroups, List.mem_map]
  constructor
  · rintro ⟨c', hmem, he⟩
    rwa [← eq_of_expr_eq (hout.registered c' hmem) hc he]
  · exact fun hmem => ⟨c, hmem, rfl⟩

theorem Compiled.mem_selectLabels_iff (h : Compiled definition w maxLimit p d) {label : String} :
    label ∈ p.selectLabels ↔ label ∈ d.aliases := by
  rw [h.finish]
  exact h.outlined_draft.labels.mem_iff

/-- A definition with an aggregated field has an aggregated output. -/
theorem Compiled.values_ne_nil (h : Compiled definition w maxLimit p d)
    (hvalue : ∃ f ∈ definition.fields, f.aggregation.isSome) : d.values ≠ [] := by
  obtain ⟨f, hf, ha⟩ := hvalue
  have hmeant := (meant_of_build h.build List.prefix_rfl).values
  intro hnone
  rw [hnone, List.forall₂_nil_right_iff] at hmeant
  exact List.filter_eq_nil_iff.1 hmeant f hf ha

end Compiled

/-- A definition without a bucket that compiles with an aggregate does so with every bucket as well,
and then its first output is the axis, unless the axis is left with an alias that is taken: it is
the default alias of the time column if the definition does not group by that column. All else is as
it was. -/
theorem bucketed_of_compile {definition : Definition} {w : Timeframe} {maxLimit : Nat}
    {p : QueryPlan} (h : compile definition w maxLimit = .ok p)
    (hplain : definition.timeBucket = none) (hvalue : ∃ f ∈ definition.fields, f.aggregation.isSome)
    (b : Bucket) :
    ∃ time, timeColumnOf definition.options = .ok time ∧
      (time.expr ∈ p.groupBy ∨ time.defaultAlias ∉ p.selectLabels →
        ∃ p' label rest, compile { definition with timeBucket := some b } w maxLimit = .ok p' ∧
          p'.selects = Draft.axisOf time b label :: rest ∧
            Draft.AxisOver time label p.selects rest ∧
          p'.predicates = p.predicates ∧ p'.params = p.params) ∧
      (time.expr ∉ p.groupBy → time.defaultAlias ∈ p.selectLabels →
        compile { definition with timeBucket := some b } w maxLimit =
          .error (.duplicateAlias time.defaultAlias)) := by
  obtain ⟨d, hc⟩ := compiled_of_compile h
  obtain ⟨ht, hkind⟩ := timeColumnOf_ok hc.time
  have hstart : Draft.Bucketed b d.timeColumn (.initial d.timeColumn none)
      (.initial d.timeColumn (some b)) :=
    .same rfl rfl rfl (by simp [Draft.initial])
  obtain ⟨d', hentries, hwith⟩ := hstart.entries definition w d (hc.entries_eq hplain)
  have hcompile := (hc.passed.withBucket b).compile_of_entries hentries
  obtain ⟨hfree, htaken⟩ := hwith.ensureAxis ht hkind
  refine ⟨d.timeColumn, hc.time, fun hor => ?_, fun hnew hmem => ?_⟩
  · rw [hc.mem_groupBy_iff hplain ht, hc.mem_selectLabels_iff] at hor
    obtain ⟨e, label, he, haxis, hover, hvalues, hpredicates, hparams⟩ := hfree hor
    have hne : ¬ e.selects.isEmpty := by
      intro hempty
      refine hc.values_ne_nil hvalue ?_
      rw [← hvalues, Draft.values, List.isEmpty_iff.1 hempty]
      rfl
    refine ⟨e.finish p.chartType definition.options.sort p.limit, label, e.selects,
      ?_, ?_, ?_, ?_, ?_⟩
    · rw [hcompile, he]
      exact if_neg hne
    · rw [Draft.finish, haxis]
      rfl
    · rw [hc.selects_eq hplain]
      exact hover
    · rw [hc.finish]
      exact hpredicates
    · rw [hc.finish]
      exact hparams
  · rw [hc.mem_groupBy_iff hplain ht] at hnew
    rw [hc.mem_selectLabels_iff] at hmem
    rw [hcompile, htaken hnew hmem]
    rfl

/-- How many alerts have a time of creation. -/
def countedTimes (label : Option String) : Definition where
  chartType := some .number
  fields := [⟨"alerts", "alert_creation_time", label, some "count", none⟩]

theorem exists_compile_countedTimes :
    ∃ p, compile (countedTimes (some "n")) ⟨none, none⟩ 10000 = .ok p ∧
    p.selectLabels = ["n"] := by
  have h : (compile (countedTimes (some "n")) ⟨none, none⟩ 10000).map (·.selectLabels) =
      .ok ["n"] := by
    rfl
  exact ok_of_map h

theorem bucketed_of_compile_countedTimes :
    ∃ p, compile (countedTimes (some "n")) ⟨none, none⟩ 10000 = .ok p ∧
    ∃ p' label rest,
      compile { countedTimes (some "n") with timeBucket := some .day } ⟨none, none⟩ 10000 = .ok p' ∧
      p'.selects = Draft.axisOf defaultTimeColumn .day label :: rest := by
  obtain ⟨p, hp, hlabels⟩ := exists_compile_countedTimes
  obtain ⟨time, htime, hfree, -⟩ := bucketed_of_compile hp rfl ⟨_, List.mem_cons_self, rfl⟩ .day
  obtain rfl : time = defaultTimeColumn := (Except.ok.inj htime).symm
  obtain ⟨p', label, rest, hp', haxis, -⟩ := hfree (.inr (by rw [hlabels]; decide))
  exact ⟨p, hp, p', label, rest, hp', haxis⟩

/-- Under the alias that the axis is to have, the count leaves none to it. -/
theorem exists_taken_countedTimes : (∃ p, compile (countedTimes none) ⟨none, none⟩ 10000 = .ok p) ∧
    (countedTimes none).timeBucket = none ∧
      (∃ f ∈ (countedTimes none).fields, f.aggregation.isSome) ∧
    compile { countedTimes none with timeBucket := some .day } ⟨none, none⟩ 10000 =
      .error (.duplicateAlias "alerts_alert_creation_time") := by
  have hplain : (compile (countedTimes none) ⟨none, none⟩ 10000).map (·.selectLabels) =
      .ok ["alerts_alert_creation_time"] := by
    rfl
  have hbucketed : (compile { countedTimes none with timeBucket := some .day } ⟨none, none⟩
      10000).map (·.selectLabels) = .error (.duplicateAlias "alerts_alert_creation_time") := by
    rfl
  obtain ⟨p, hp, -⟩ := ok_of_map hplain
  exact ⟨⟨p, hp⟩, rfl, ⟨_, List.mem_cons_self, rfl⟩, error_of_map hbucketed⟩

end IncidentBoard.Plan
