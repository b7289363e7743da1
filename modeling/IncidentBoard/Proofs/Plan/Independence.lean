import IncidentBoard.Proofs.Plan.Alike
import IncidentBoard.Proofs.Plan.Text

/-! Definitions that differ in the values of their filters have plans that differ in bound values
alone. -/
namespace IncidentBoard.Plan

open Sql Widget Schema Access

namespace Draft

/-- The same draft but for the values bound so far, of which there are as many. -/
def Twin (d d' : Draft) : Prop :=
  ∃ params : Params, d.params.length = params.length ∧ d' = { d with params }

variable {d d' : Draft}

theorem Twin.requireTable (h : d.Twin d') (table : String) :
    (d.requireTable table).Twin (d'.requireTable table) := by
  obtain ⟨params, hlen, rfl⟩ := h
  exact ⟨params, hlen, rfl⟩

theorem Twin.claimAlias (h : d.Twin d') (label : String) :
    Both Twin (d.claimAlias label) (d'.claimAlias label) := by
  obtain ⟨params, hlen, rfl⟩ := h
  intro a b ha hb
  obtain ⟨-, rfl⟩ := claimAlias_ok ha
  obtain ⟨-, rfl⟩ := claimAlias_ok hb
  exact ⟨params, hlen, rfl⟩

theorem Twin.setAxis (h : d.Twin d') (b : Bucket) (label : String) :
    Both Twin (d.setAxis b label) (d'.setAxis b label) := by
  obtain ⟨params, hlen, rfl⟩ := h
  intro x y hx hy
  obtain ⟨-, rfl⟩ := setAxis_ok hx
  obtain ⟨-, rfl⟩ := setAxis_ok hy
  exact ⟨params, hlen, rfl⟩

theorem Twin.addPlain (h : d.Twin d') (c : Column) (label : String) :
    Both Twin (addGroup.addPlain d c label) (addGroup.addPlain d' c label) := by
  obtain ⟨params, hlen, rfl⟩ := h
  unfold addGroup.addPlain
  by_cases hg : d.grouped.contains c = true
  · rw [if_pos hg, if_pos hg]
    exact .ok ⟨params, hlen, rfl⟩
  · rw [if_neg hg, if_neg hg]
    refine (Twin.claimAlias ⟨params, hlen, rfl⟩ label).bind fun a b hab => .ok ?_
    obtain ⟨params, hlen, rfl⟩ := hab
    exact ⟨params, hlen, rfl⟩

theorem Twin.axis_eq (h : d.Twin d') :
    d'.bucket = d.bucket ∧ d'.axis = d.axis ∧ d'.timeColumn = d.timeColumn := by
  obtain ⟨params, -, rfl⟩ := h
  exact ⟨rfl, rfl, rfl⟩

theorem Twin.ensureAxis (h : d.Twin d') : Both Twin d.ensureAxis d'.ensureAxis := by
  obtain ⟨hbucket, haxis, htime⟩ := h.axis_eq
  unfold Draft.ensureAxis
  rw [hbucket, haxis, htime]
  cases d.bucket with
  | none => exact .ok h
  | some b =>
    dsimp only
    split
    · exact h.setAxis b _
    · exact .ok h

theorem Twin.addGroup (h : d.Twin d') (c : Column) (label : String) :
    Both Twin (d.addGroup c label) (d'.addGroup c label) := by
  obtain ⟨hbucket, haxis, htime⟩ := h.axis_eq
  unfold Draft.addGroup
  rw [hbucket, haxis, htime]
  cases d.bucket with
  | none => exact h.addPlain c label
  | some b =>
    dsimp only
    by_cases hc : c = d.timeColumn
    · rw [if_pos hc, if_pos hc]
      split
      · exact h.setAxis b label
      · exact .ok h
    · rw [if_neg hc, if_neg hc]
      exact h.addPlain c label

/-- The same result on drafts that are twins. -/
def TwinWith {α : Type} (a b : α × Draft) : Prop := a.1 = b.1 ∧ a.2.Twin b.2

theorem Twin.filter (h : d.Twin d') {f g : Filter} (hfg : f.Alike g) :
    Both TwinWith (d.filter f) (d'.filter g) := by
  obtain ⟨params, hlen, rfl⟩ := h
  unfold Draft.filter
  rw [hfg.table, hfg.column, hfg.operator]
  refine (Both.refl (resolve g.table g.column)).bind ?_
  rintro c _ rfl
  cases hop : Operator.ofName? g.operator with
  | none => exact .error_left
  | some op =>
    have hname : f.operator = op.name := hfg.operator.trans (Operator.name_of_ofName? hop).symm
    have hnull (ho : op = .eq ∨ op = .neq) : f.value = .null ↔ g.value = .null :=
      hfg.null (by rcases ho with rfl | rfl <;> simp [hname])
    have hlist (ho : op = .isIn ∨ op = .notIn) :
        ∀ xs ys, f.value = .arr xs → g.value = .arr ys → xs.length = ys.length :=
      hfg.length (by rcases ho with rfl | rfl <;> simp [hname])
    have hboth := both_predicate (c := c) hlen hnull hlist
    dsimp only
    cases hf : predicate c op f.value d.params with
    | error fault => exact .error_left
    | ok a =>
      cases hg : predicate c op g.value params with
      | error fault => exact .error_right
      | ok b =>
        obtain ⟨hexpr, hcount⟩ := hboth a b hf hg
        exact .ok ⟨hexpr, b.2, hcount, rfl⟩

theorem Twin.addFilter (h : d.Twin d') {f g : Filter} (hfg : f.Alike g) :
    Both Twin (d.addFilter f) (d'.addFilter g) := by
  refine (h.filter hfg).bind ?_
  rintro ⟨e, a⟩ ⟨_, b⟩ ⟨rfl, params, hlen, rfl⟩
  exact .ok ⟨params, hlen, rfl⟩

theorem Twin.addValue (h : d.Twin d') (c : Column) (label : String) (a : Aggregation)
    (condition : Option Expr) :
    Both Twin (d.addValue c label a condition) (d'.addValue c label a condition) := by
  unfold Draft.addValue
  cases aggregate? a c.expr condition with
  | none => exact .error_left
  | some e =>
    refine (h.claimAlias label).bind fun x y hxy => .ok ?_
    obtain ⟨params, hlen, rfl⟩ := hxy
    exact ⟨params, hlen, rfl⟩

theorem Twin.filterBy (h : d.Twin d') {f g : Option Filter} (hfg : Option.Rel Filter.Alike f g) :
    Both TwinWith (d.filterBy f) (d'.filterBy g) := by
  cases hfg with
  | none => exact .ok ⟨rfl, h⟩
  | some hfg => exact (h.filter hfg).map fun a b hab => ⟨congrArg some hab.1, hab.2⟩

theorem Twin.addAggregate (h : d.Twin d') (c : Column) (label : String) (a : Aggregation)
    {f g : Option Filter} (hfg : Option.Rel Filter.Alike f g) :
    Both Twin (d.addAggregate c label a f) (d'.addAggregate c label a g) := by
  rw [addAggregate_eq, addAggregate_eq]
  by_cases hn : (a = .sum ∨ a = .avg) ∧ (!c.kind.isNumeric) = true
  · rw [if_pos hn]
    exact .error_left
  · rw [if_neg hn, if_neg hn]
    refine (h.filterBy hfg).bind ?_
    rintro ⟨condition, x⟩ ⟨_, y⟩ ⟨rfl, hxy⟩
    exact hxy.addValue c label a condition

theorem Twin.addField (h : d.Twin d') {f g : Field} (hfg : f.Alike g) :
    Both Twin (d.addField f) (d'.addField g) := by
  unfold Draft.addField
  rw [hfg.table, hfg.column, hfg.label, hfg.aggregation]
  refine (Both.refl (resolve g.table g.column)).bind ?_
  rintro c _ rfl
  have hd := h.requireTable c.table
  cases g.aggregation with
  | none =>
    have isSome {x y : Option Filter} (h : Option.Rel Filter.Alike x y) : x.isSome = y.isSome := by
      cases h <;> rfl
    dsimp only
    rw [isSome hfg.filter]
    by_cases hf : g.filter.isSome = true
    · rw [if_pos hf]
      exact .error_left
    · rw [if_neg hf, if_neg hf]
      exact hd.addGroup c _
  | some name =>
    dsimp only
    cases Aggregation.ofName? name with
    | none => exact .error_left
    | some a => exact hd.addAggregate c _ a hfg.filter

theorem Twin.addReference (h : d.Twin d') (reference : String) :
    Both Twin (d.addReference reference) (d'.addReference reference) := by
  unfold Draft.addReference
  refine (Both.refl (resolveReference reference)).bind ?_
  rintro c _ rfl
  exact (h.requireTable c.table).addGroup c _

theorem Twin.addWindow (h : d.Twin d') {w w' : Timeframe} (hw : w.Alike w') :
    (d.addWindow w).Twin (d'.addWindow w') := by
  obtain ⟨params, hlen, rfl⟩ := h
  obtain ⟨hexprs, hcount⟩ := sameForm_windowPredicates hw d.timeColumn hlen
  have hopen : (w.start.isNone && w.stop.isNone) = (w'.start.isNone && w'.stop.isNone) := by
    simp only [← Option.not_isSome, hw.start, hw.stop]
  unfold Draft.addWindow
  rw [hopen]
  split
  · exact ⟨params, hlen, rfl⟩
  · refine ⟨_, hcount, ?_⟩
    simp only [Draft.requireTable]
    rw [hexprs]

end Draft

theorem both_build {definition definition' : Definition} (hd : definition.Alike definition')
    {w w' : Timeframe} (hw : w.Alike w') (time : Column) :
    Both Draft.Twin (build definition w time) (build definition' w' time) := by
  unfold build
  rw [hd.timeBucket, hd.groupBy]
  have initial : Draft.Twin { timeColumn := time, bucket := definition'.timeBucket }
    { timeColumn := time, bucket := definition'.timeBucket } := ⟨_, rfl, rfl⟩
  refine (Both.foldlM (fun h hfg => h.addField hfg) hd.fields initial).bind fun a b hab => ?_
  have hgroups : List.Forall₂ Eq definition'.groupBy definition'.groupBy :=
    List.forall₂_same.2 fun _ _ => rfl
  refine (Both.foldlM (fun h hr => hr ▸ h.addReference _) hgroups hab).bind fun a b hab => ?_
  refine (Both.foldlM (fun h hfg => h.addFilter hfg) hd.filters hab).bind fun a b hab => ?_
  exact (hab.addWindow hw).ensureAxis

/-- The same plan but for the values bound to its parameters, of which there are as many. -/
def QueryPlan.Twin (p q : QueryPlan) : Prop :=
  ∃ params : Params, p.params.length = params.length ∧ q = { p with params }

theorem Draft.Twin.finish {d d' : Draft} (h : d.Twin d') (chartType : ChartType)
    (sort : Option SortOrder) (limit : Option Nat) :
    (d.finish chartType sort limit).Twin (d'.finish chartType sort limit) := by
  obtain ⟨params, hlen, rfl⟩ := h
  exact ⟨params, hlen, rfl⟩

theorem twin_of_compile {definition definition' : Definition} (hd : definition.Alike definition')
    {w w' : Timeframe} (hw : w.Alike w') {maxLimit : Nat} {p q : QueryPlan}
    (hp : compile definition w maxLimit = .ok p) (hq : compile definition' w' maxLimit = .ok q) :
    p.Twin q := by
  obtain ⟨d, hp⟩ := compiled_of_compile hp
  obtain ⟨d', hq⟩ := compiled_of_compile hq
  have htime : d.timeColumn = d'.timeColumn :=
    Except.ok.inj (hp.time.symm.trans (hd.options ▸ hq.time))
  have hlimit : p.limit = q.limit := Except.ok.inj (hp.limit.symm.trans (hd.options ▸ hq.limit))
  have hchart : p.chartType = q.chartType :=
    Option.some.inj (hp.chartType.symm.trans (hd.chartType ▸ hq.chartType))
  have hbuild := hp.build
  rw [htime] at hbuild
  have hdraft := both_build hd hw _ _ _ hbuild hq.build
  rw [hp.finish, hq.finish, hchart, hlimit, hd.options]
  exact hdraft.finish _ _ _

section Scopes

theorem QueryPlan.Twin.apply {p q : QueryPlan} (h : p.Twin q) {s t : Scope} (hst : s.Alike t) :
    (s.apply p).Twin (t.apply q) := by
  obtain ⟨params, hlen, rfl⟩ := h
  cases hst with
  | unrestricted => exact ⟨params, hlen, rfl⟩
  | restricted hcustomers hcases =>
    obtain ⟨hexpr, hcount⟩ := sameForm_restriction hlen hcustomers hcases
    refine ⟨_, hcount, ?_⟩
    simp only [Scope.apply, QueryPlan.addPredicate]
    rw [hexpr]

theorem QueryPlan.Twin.restrict {p q : QueryPlan} (h : p.Twin q) {scopes scopes' : List Scope}
    (hs : List.Forall₂ Scope.Alike scopes scopes') :
    (restrict scopes p).Twin (restrict scopes' q) := by
  induction hs generalizing p q with
  | nil => exact h
  | cons hst _ ih => exact ih (h.apply hst)

end Scopes

/-- The values of filters, the bounds of windows and the ids of scopes leave no trace in a plan but
among the values bound to its parameters: two definitions that differ in values alone have plans
that differ in these alone, with as many of them, and one text. -/
theorem text_independent_of_values {definition definition' : Definition}
    (hd : definition.Alike definition') {w w' : Timeframe} (hw : w.Alike w') {maxLimit : Nat}
    {p q : QueryPlan} (hp : compile definition w maxLimit = .ok p)
    (hq : compile definition' w' maxLimit = .ok q) {scopes scopes' : List Scope}
    (hs : List.Forall₂ Scope.Alike scopes scopes') :
    restrict scopes' q = { restrict scopes p with params := (restrict scopes' q).params } ∧
    (restrict scopes p).params.values.length = (restrict scopes' q).params.values.length ∧
    ∀ d, (restrict scopes p).toSql d = (restrict scopes' q).toSql d := by
  obtain ⟨params, hlen, htwin⟩ := (twin_of_compile hd hw hp hq).restrict hs
  rw [htwin]
  exact ⟨rfl, hlen, fun _ => rfl⟩

section Sample

/-- The share of minor alerts: `severeShare` with other values. -/
def minorShare : Definition :=
  { severeShare with
    fields := [⟨"alerts", "alert_id", some "share", some "ratio",
      some ⟨"severities", "severity_name", "in", .arr [.str "Low", .str "1) OR (1 = 1"]⟩⟩]
    filters := [⟨"alerts", "alert_severity_id", "between", .arr [.str "0", .int 1]⟩] }

def sinceApril : Timeframe := ⟨(Date.ofYMD? 2025 4 1).map Date.midnight, none⟩

def otherScope : Scope := .scoped (.ofList [1, 2]) (.ofList [5])

theorem alike_minorShare : severeShare.Alike minorShare := by
  refine ⟨rfl, .cons ⟨rfl, rfl, rfl, rfl, .some ?_⟩ .nil, rfl, .cons ?_ .nil, rfl, rfl⟩
  · refine ⟨rfl, rfl, rfl, fun h => absurd h (by decide), ?_⟩
    rintro - _ _ ⟨⟩ ⟨⟩
    rfl
  · exact ⟨rfl, rfl, rfl, fun h => absurd h (by decide), fun h => absurd h (by decide)⟩

theorem text_independent_of_values_minorShare :
    ∃ p q, compile severeShare sinceMarch 10000 = .ok p ∧
    compile minorShare sinceApril 10000 = .ok q ∧ p.params ≠ q.params ∧
    ∀ d, (restrict [clientScope, .denyAll] p).toSql d =
      (restrict [otherScope, .denyAll] q).toSql d := by
  obtain ⟨p, hp, -⟩ := exists_compile_severeShare
  have hwindow : sinceMarch.Alike sinceApril := ⟨by decide, by decide⟩
  have hscopes : List.Forall₂ Scope.Alike [clientScope, .denyAll] [otherScope, .denyAll] :=
    .cons (.restricted (by decide) (by decide)) (.cons (.restricted rfl rfl) .nil)
  have hfirst :
      (compile severeShare sinceMarch 10000).map (·.params.values.head?) =
        .ok (some (.text "High")) ∧
      (compile minorShare sinceApril 10000).map (·.params.values.head?) =
        .ok (some (.text "Low")) := by
    decide +kernel
  cases hq : compile minorShare sinceApril 10000 with
  | error e =>
    rw [hq] at hfirst
    cases hfirst.2
  | ok q =>
    rw [hp, hq] at hfirst
    have htext := text_independent_of_values alike_minorShare hwindow hp hq hscopes
    refine ⟨p, q, hp, rfl, fun h => ?_, htext.2.2⟩
    have hhead : p.params.values.head? = some (.text "High") := Except.ok.inj hfirst.1
    rw [h] at hhead
    exact absurd (hhead.symm.trans (Except.ok.inj hfirst.2)) (by decide)

end Sample

end IncidentBoard.Plan
