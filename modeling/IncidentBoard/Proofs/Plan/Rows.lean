import IncidentBoard.Proofs.Plan.Meaning
import IncidentBoard.Proofs.Plan.Outline

/-! The conditions and aggregates of a compiled plan, filter by filter, on the rows of a store. -/
namespace IncidentBoard.Plan

open Sql Widget Schema Access

/-- The condition that a filter became, with its values bound before others. -/
def Stated (q : Params) (f : Filter) (e : Expr) : Prop :=
  ∃ c op p p', resolve f.table f.column = .ok c ∧ Operator.ofName? f.operator = some op ∧
    predicate c op f.value p = .ok (e, p') ∧ p'.values <+: q.values

/-- Unless it looks for a text, the condition of a filter is true of the rows of which the filter
holds. -/
def Means (q : Params) (f : Filter) (e : Expr) : Prop :=
  ∃ c op, resolve f.table f.column = .ok c ∧ (f.operator, op) ∈ operators ∧
    (op ≠ .contains → ∀ D : Database, (∀ x, D.time x = x) → ∀ row : Row,
      D.truth (e.eval D q.read row) = some true ↔ Says D c.kind op f.value (cellOf c row))

/-- The output of an aggregated field, with what `R` says of its filter. -/
def Computes (R : Filter → Expr → Prop) (f : Field) (s : Select) : Prop :=
  ∃ c a condition, resolve f.table f.column = .ok c ∧
    f.aggregation.bind Aggregation.ofName? = some a ∧
    s.label = f.label.getD c.defaultAlias ∧ aggregate? a c.expr condition = some s.expr ∧
    Option.Rel R f.filter condition

section Stated

variable {p q : Params} {f : Filter} {e : Expr}

theorem Stated.mono (h : Stated p f e) (hpq : p.values <+: q.values) : Stated q f e := by
  obtain ⟨c, op, p₁, p₂, hc, hop, hpredicate, hp⟩ := h
  exact ⟨c, op, p₁, p₂, hc, hop, hpredicate, hp.trans hpq⟩

theorem Stated.means (h : Stated q f e) : Means q f e := by
  obtain ⟨c, op, p, p', hc, hop, hpredicate, hq⟩ := h
  exact ⟨c, op, hc, mem_operators hop, fun hne D htime row =>
    truth_of_predicate hne hpredicate hq htime row⟩

theorem Computes.mono {R S : Filter → Expr → Prop} {f : Field} {s : Select}
    (hRS : ∀ {f e}, R f e → S f e) (h : Computes R f s) : Computes S f s := by
  obtain ⟨c, a, condition, hc, ha, hl, he, hrel⟩ := h
  obtain ⟨table, column, label, aggregation, filter⟩ := f
  refine ⟨c, a, condition, hc, ha, hl, he, ?_⟩
  cases hrel with
  | none => exact .none
  | some hR => exact .some (hRS hR)

end Stated

namespace Draft

variable {d d' : Draft} {c : Column} {label : String}

/-- The aggregated outputs. -/
def values (d : Draft) : List Select := d.selects.filter (·.role == .value)

theorem filter_stated {f : Filter} {e : Expr} (h : d.filter f = .ok (e, d')) :
    Stated d'.params f e ∧ d.params.values <+: d'.params.values := by
  obtain ⟨c, op, params, hc, hop, hp, rfl⟩ := filter_predicate h
  obtain ⟨vs, hvs, -⟩ := (condition_of_predicate hp).binds
  exact ⟨⟨c, op, d.params, params, hc, hop, hp, List.prefix_rfl⟩, vs, hvs.symm⟩

theorem FilteredBy.stated {f : Option Widget.Filter} {condition : Option Expr}
    (h : d.FilteredBy f condition d') :
    d.params.values <+: d'.params.values ∧ Option.Rel (Stated d'.params) f condition := by
  cases h with
  | all => exact ⟨List.prefix_rfl, .none⟩
  | where' hfilter =>
    obtain ⟨hstated, hbinds⟩ := filter_stated hfilter
    exact ⟨hbinds, .some hstated⟩

theorem addGroup_values (h : (d.requireTable c.table).addGroup c label = .ok d') :
    d'.values = d.values ∧ d'.params = d.params := by
  refine addGroup_cases (P := fun x => x.values = d.values ∧ x.params = d.params)
    (fun _ => ⟨rfl, rfl⟩) (fun _ _ _ => ⟨?_, rfl⟩) (fun _ _ _ _ _ => ⟨rfl, rfl⟩) h
  simp [values, List.filter_append]

/-- Entries that each append outputs or conditions for what they are, one after the other. -/
theorem foldlM_appends {α β : Type} {f : Draft → α → Except DefinitionError Draft}
    (out : Draft → List β) (R : Params → α → β → Prop) (part : α → Bool)
    (mono : ∀ {p q x y}, p.values <+: q.values → R p x y → R q x y)
    (step : ∀ {d x d'}, f d x = .ok d' → d.params.values <+: d'.params.values ∧
      ∃ ys, out d' = out d ++ ys ∧ List.Forall₂ (R d'.params) ([x].filter part) ys)
    {xs : List α} (h : xs.foldlM f d = .ok d') : d.params.values <+: d'.params.values ∧
      ∃ ys, out d' = out d ++ ys ∧ List.Forall₂ (R d'.params) (xs.filter part) ys := by
  induction xs generalizing d with
  | nil =>
    cases h
    exact ⟨List.prefix_rfl, [], by simp, .nil⟩
  | cons x xs ih =>
    rw [List.foldlM_cons] at h
    obtain ⟨d₁, hx, h⟩ := ok_of_bind h
    obtain ⟨hfirst, ys, hys, hrel⟩ := step hx
    obtain ⟨hrest, zs, hzs, hrels⟩ := ih h
    refine ⟨hfirst.trans hrest, ys ++ zs, by rw [hzs, hys, List.append_assoc], ?_⟩
    have hsplit : (x :: xs).filter part = [x].filter part ++ xs.filter part :=
      List.filter_append [x] xs
    rw [hsplit]
    exact List.rel_append (hrel.imp fun _ _ => mono hrest) hrels

theorem addField_values {f : Field} (h : d.addField f = .ok d') :
    d.params.values <+: d'.params.values ∧
    ∃ ss, d'.values = d.values ++ ss ∧
      List.Forall₂ (Computes (Stated d'.params)) ([f].filter (·.aggregation.isSome)) ss := by
  obtain ⟨c, hc, ⟨hnone, -, h⟩ | ⟨name, a, hname, ha, h⟩⟩ := addField_ok h
  · obtain ⟨hvalues, hparams⟩ := addGroup_values h
    exact ⟨hparams ▸ List.prefix_rfl, [], by simp [hvalues], by simp [hnone]⟩
  · obtain ⟨condition, d₁, e, hby, he, -, rfl⟩ := addAggregate_filteredBy h
    have hpart : [f].filter (·.aggregation.isSome) = [f] := by simp [hname]
    obtain ⟨hbinds, hstated⟩ := hby.stated
    refine ⟨hbinds, [⟨e, f.label.getD c.defaultAlias, .value, none⟩], ?_, ?_⟩
    · simp [values, List.filter_append, requireTable]
    · rw [hpart]
      exact .cons ⟨c, a, condition, hc, by simp [hname, ha], rfl, he, hstated⟩ .nil

theorem addFilter_predicates {f : Filter} (h : d.addFilter f = .ok d') :
    d.params.values <+: d'.params.values ∧ d'.values = d.values ∧
      ∃ es, d'.predicates = d.predicates ++ es ∧
        List.Forall₂ (Stated d'.params) ([f].filter fun _ => true) es := by
  obtain ⟨⟨e, d₁⟩, hfilter, h⟩ := ok_of_bind h
  obtain ⟨hstated, hbinds⟩ := filter_stated hfilter
  obtain ⟨c, op, params, -, -, -, rfl⟩ := filter_predicate hfilter
  cases h
  exact ⟨hbinds, rfl, [e], rfl, .cons hstated .nil⟩

end Draft

/-- A bound of the window on the time column. -/
def Bounds (q : Params) (time : Column) (relation : BinOp) (t : Timestamp) (e : Expr) : Prop :=
  ∀ D : Database, (∀ x, D.time x = x) → ∀ row : Row, D.truth (e.eval D q.read row) = some true ↔
    cellOf time row ≠ .null ∧ D.Relates relation (cellOf time row) (.value (.timestamp t))

theorem bounds_windowPredicates (time : Column) (w : Timeframe) {p q : Params}
    (hq : (windowPredicates time w p).2.values <+: q.values) :
    p.values <+: (windowPredicates time w p).2.values ∧
      ∃ first last, (windowPredicates time w p).1 = first ++ last ∧
        List.Forall₂ (Bounds q time .ge) w.start.toList first ∧
        List.Forall₂ (Bounds q time .le) w.stop.toList last := by
  have one (relation : BinOp) (hrelation : relation.compares) (t : Option Timestamp) {p : Params}
      (hq : (windowPredicates.bound time relation t p).2.values <+: q.values) :
      p.values <+: (windowPredicates.bound time relation t p).2.values ∧
      List.Forall₂ (Bounds q time relation) t.toList
      (windowPredicates.bound time relation t p).1 := by
    cases t with
    | none => exact ⟨List.prefix_rfl, .nil⟩
    | some t =>
      refine ⟨List.prefix_append _ _, .cons (fun D htime row => ?_) .nil⟩
      exact truth_of_bound hrelation hq htime
  obtain ⟨hmid, hlast⟩ := one .le rfl w.stop hq
  obtain ⟨hstart, hfirst⟩ := one .ge rfl w.start (hmid.trans hq)
  exact ⟨hstart.trans hmid, _, _, rfl, hfirst, hlast⟩

namespace Draft

theorem addWindow_fields (d : Draft) (w : Timeframe) :
    (d.addWindow w).predicates = d.predicates ++ (windowPredicates d.timeColumn w d.params).1 ∧
      (d.addWindow w).params = (windowPredicates d.timeColumn w d.params).2 ∧
      (d.addWindow w).values = d.values := by
  obtain ⟨start, stop⟩ := w
  cases start <;> cases stop <;> simp [addWindow, windowPredicates, windowPredicates.bound, values,
    requireTable]

theorem ensureAxis_fields {d d' : Draft} (h : d.ensureAxis = .ok d') :
    d'.predicates = d.predicates ∧ d'.params = d.params ∧ d'.values = d.values := by
  rcases ensureAxis_ok h with ⟨rfl, -⟩ | ⟨b, -, -, -, rfl⟩ <;> exact ⟨rfl, rfl, rfl⟩

end Draft

namespace Draft

variable {d d' : Draft}

theorem addReference_fields {reference : String} (h : d.addReference reference = .ok d') :
    d'.values = d.values ∧ d'.params = d.params ∧ d'.predicates = d.predicates ∧
      d'.timeColumn = d.timeColumn := by
  have hstep := addReference_step h
  obtain ⟨c, -, h⟩ := ok_of_bind h
  obtain ⟨hvalues, hparams⟩ := addGroup_values h
  exact ⟨hvalues, hparams, hstep.predicates_eq, hstep.timeColumn_eq⟩

/-- Groups bring neither conditions nor aggregates. -/
theorem foldlM_addReference_fields {references : List String}
    (h : references.foldlM addReference d = .ok d') :
    d'.values = d.values ∧ d'.params = d.params ∧ d'.predicates = d.predicates ∧
      d'.timeColumn = d.timeColumn := by
  refine foldlM_keeps (P := fun x => x.values = d.values ∧ x.params = d.params ∧
    x.predicates = d.predicates ∧ x.timeColumn = d.timeColumn) (fun _ hx hr => ?_)
    ⟨rfl, rfl, rfl, rfl⟩ h
  obtain ⟨hvalues, hparams, hpredicates, htime⟩ := addReference_fields hr
  exact ⟨hvalues.trans hx.1, hparams.trans hx.2.1, hpredicates.trans hx.2.2.1, htime.trans hx.2.2.2⟩

theorem foldlM_addFilter_fields {filters : List Widget.Filter}
    (h : filters.foldlM addFilter d = .ok d') :
    d'.values = d.values ∧ d'.timeColumn = d.timeColumn :=
  foldlM_keeps (P := fun x => x.values = d.values ∧ x.timeColumn = d.timeColumn)
    (fun _ hx hf => ⟨(addFilter_predicates hf).2.1.trans hx.1,
      (addFilter_step hf).timeColumn_eq.trans hx.2⟩)
    ⟨rfl, rfl⟩ h

end Draft

/-- Conditions and aggregates that say of rows what a definition and its window say, filter by
filter and bound by bound, where parameters read the values of `q`. -/
structure Meant (definition : Definition) (w : Timeframe) (time : Column) (q : Params)
    (predicates : List Expr) (values : List Select) : Prop where
  conditions : ∃ filters first last, predicates = filters ++ (first ++ last) ∧
    List.Forall₂ (Means q) definition.filters filters ∧
    List.Forall₂ (Bounds q time .ge) w.start.toList first ∧
    List.Forall₂ (Bounds q time .le) w.stop.toList last
  values : List.Forall₂ (Computes (Means q))
    (definition.fields.filter (·.aggregation.isSome)) values

open Draft in
theorem meant_of_build {definition : Definition} {w : Timeframe} {time : Column} {d : Draft}
    {q : Params} (h : build definition w time = .ok d) (hq : d.params.values <+: q.values) :
    Meant definition w time q d.predicates d.values := by
  obtain ⟨d₁, hfields, h⟩ := ok_of_bind h
  obtain ⟨d₂, hgroups, h⟩ := ok_of_bind h
  obtain ⟨d₃, hfilters, h⟩ := ok_of_bind h
  obtain ⟨haxis, haxisParams, haxisValues⟩ := ensureAxis_fields h
  obtain ⟨hwindow, hwindowParams, hwindowValues⟩ := addWindow_fields d₃ w
  obtain ⟨reached, hp₁⟩ := fields_reach hfields
  obtain ⟨hv₂, hq₂, hp₂, ht₂⟩ := foldlM_addReference_fields hgroups
  obtain ⟨hv₃, ht₃⟩ := foldlM_addFilter_fields hfilters
  have htime : d₃.timeColumn = time := ht₃.trans (ht₂.trans reached.timeColumn_eq)
  obtain ⟨-, ss, hss, hcomputes⟩ := foldlM_appends Draft.values (fun p => Computes (Stated p))
    (·.aggregation.isSome) (fun hpq h => h.mono fun hs => hs.mono hpq) addField_values hfields
  obtain ⟨hq₃, es, hes, hstated⟩ := foldlM_appends Draft.predicates Stated (fun _ => true)
    (fun hpq h => h.mono hpq)
    (fun hf => ⟨(addFilter_predicates hf).1, (addFilter_predicates hf).2.2⟩) hfilters
  rw [haxisParams, hwindowParams, htime] at hq
  obtain ⟨hq₄, first, last, hbounds, hfirst, hlast⟩ := bounds_windowPredicates time w hq
  have hafter : d₃.params.values <+: q.values := hq₄.trans hq
  constructor
  · refine ⟨es, first, last, ?_, ?_, hfirst, hlast⟩
    · rw [haxis, hwindow, htime, hbounds, hes, hp₂, hp₁, List.nil_append]
    · rw [List.filter_true] at hstated
      exact hstated.imp fun _ _ hs => (hs.mono hafter).means
  · rw [haxisValues, hwindowValues, hv₃, hv₂, hss]
    exact hcomputes.imp fun _ _ hs => hs.mono fun hs => (hs.mono (hq₂ ▸ hq₃.trans hafter)).means

theorem restrict_extends (scopes : List Scope) (p : QueryPlan) :
    p.predicates <+: (restrict scopes p).predicates ∧
      p.params.values <+: (restrict scopes p).params.values := by
  refine restrict_keeps
    (P := fun x => p.predicates <+: x.predicates ∧ p.params.values <+: x.params.values)
    (fun {s x} hx => ?_) ⟨List.prefix_rfl, List.prefix_rfl⟩ scopes
  rw [apply_eq]
  exact ⟨hx.1.trans (List.prefix_append _ _), hx.2.trans (List.prefix_append _ _)⟩

/-- Every filter of a definition, and every bound of the window, is in the plan as a condition that
is true of the rows of which it says so: the filters of the definition as conditions on rows, the
filter of a field in its aggregate. Scopes add conditions and values after them and change none of
it. -/
theorem meaning_of_compile {definition : Definition} {w : Timeframe} {maxLimit : Nat}
    {p : QueryPlan} (h : compile definition w maxLimit = .ok p) (scopes : List Scope) :
    ∃ time, timeColumnOf definition.options = .ok time ∧
      p.predicates <+: (restrict scopes p).predicates ∧
      Meant definition w time (restrict scopes p).params p.predicates
        ((restrict scopes p).selects.filter (·.role == .value)) := by
  obtain ⟨d, hc⟩ := compiled_of_compile h
  obtain ⟨hpredicates, hparams⟩ := restrict_extends scopes p
  have hselects : (restrict scopes p).selects.filter (·.role == .value) = d.values := by
    have haxis : d.axis.toList.filter (·.role == .value) = [] := by
      refine List.filter_eq_nil_iff.2 fun s hs => ?_
      obtain ⟨b, label, -, rfl⟩ := hc.outlined_draft.axis s (Option.mem_toList.1 hs)
      exact Bool.false_ne_true
    rw [restrict_selects, hc.finish, Draft.finish, List.filter_append, haxis, List.nil_append]
    rfl
  refine ⟨d.timeColumn, hc.time, hpredicates, ?_⟩
  rw [hselects]
  rw [hc.finish] at hparams ⊢
  exact meant_of_build hc.build hparams

/-- The alerts of two clients since that morning, of some severities. Numbers are written as a
double and as a text, and the name of a client as a number. -/
def namedAlerts : Definition where
  chartType := some .number
  fields := [⟨"alerts", "alert_id", some "n", some "count", none⟩]
  filters := [⟨"alerts", "alert_severity_id", "between", .arr [.float 2, .str " +5 "]⟩,
    ⟨"client", "name", "in", .arr [.str "Acme", .int 7]⟩,
    ⟨"alerts", "alert_creation_time", "gte", .str " 2024-03-02T13:00:00+02:00"⟩]

theorem denotes_two : Denotes .integer (.float 2) (.int 2) :=
  .double (b := ⟨false, 4503599627370496, -51⟩) rfl (Decimal.Binary.toInt?_eq_some.1 rfl)
    (by decide)

theorem denotes_five : Denotes .integer (.str " +5 ") (.int 5) := by
  have htext : Decimal.IntegerText 5 ['+', '5'] :=
    .mk (n := 5) .plus (by decide) ⟨List.forall_mem_singleton.2 rfl, rfl⟩
  exact .numeral htext (by decide)

theorem denotes_marchMorning :
    Denotes .timestamp (.str " 2024-03-02T13:00:00+02:00") (.timestamp .marchMorning) :=
  .moment (Timestamp.parse?_eq_some.1 (by decide +kernel))

/-- A filter of integers, one of texts and one of timestamps. -/
theorem meaning_of_compile_namedAlerts : ∃ p, compile namedAlerts ⟨none, none⟩ 10000 = .ok p ∧
    ∃ severity client time rest,
      (restrict [clientScope, .denyAll] p).predicates = severity :: client :: time :: rest ∧
      ∀ D : Database, (∀ x, D.time x = x) → ∀ row : Row,
        let holds (e : Expr) :=
          D.truth (e.eval D (restrict [clientScope, .denyAll] p).params.read row)
        (holds severity = some true ↔ row (some "alerts") "alert_severity_id" ≠ .null ∧
          D.AtMost (.value (.int 2)) (row (some "alerts") "alert_severity_id") ∧
          D.AtMost (row (some "alerts") "alert_severity_id") (.value (.int 5))) ∧
        (holds client = some true ↔ row (some "client") "name" = .value (.text "Acme") ∨
          row (some "client") "name" = .value (.text "7")) ∧
        (holds time = some true ↔ row (some "alerts") "alert_creation_time" ≠ .null ∧
          D.Relates .ge (row (some "alerts") "alert_creation_time")
            (.value (.timestamp .marchMorning))) := by
  have hcompiles : (compile namedAlerts ⟨none, none⟩ 10000).map (fun _ => ()) = .ok () := by rfl
  obtain ⟨p, hp, -⟩ := ok_of_map hcompiles
  obtain ⟨_, -, ⟨added, hadded⟩, hmeant⟩ := meaning_of_compile hp [clientScope, .denyAll]
  obtain ⟨filters, first, last, hpredicates, hfilters, -⟩ := hmeant.conditions
  obtain ⟨severity, _, ⟨_, op₁, hc₁, hop₁, means₁⟩, hfilters₁, rfl⟩ :=
    List.forall₂_cons_left_iff.1 hfilters
  obtain ⟨client, _, ⟨_, op₂, hc₂, hop₂, means₂⟩, hfilters₂, rfl⟩ :=
    List.forall₂_cons_left_iff.1 hfilters₁
  obtain ⟨time, _, ⟨_, op₃, hc₃, hop₃, means₃⟩, -, rfl⟩ := List.forall₂_cons_left_iff.1 hfilters₂
  cases hc₁
  cases hc₂
  cases hc₃
  obtain rfl : op₁ = .between := by simpa [operators] using hop₁
  obtain rfl : op₂ = .isIn := by simpa [operators] using hop₂
  obtain rfl : op₃ = .gte := by simpa [operators] using hop₃
  refine ⟨p, hp, severity, client, time, _, by rw [← hadded, hpredicates]; rfl, ?_⟩
  intro D htime row
  refine ⟨(means₁ (by decide) D htime row).trans (and_congr_right fun _ => ?_),
    (means₂ (by decide) D htime row).trans ?_, (means₃ (by decide) D htime row).trans ?_⟩
  · constructor
    · rintro ⟨low, high, hlow, hhigh, hcell⟩
      rwa [hlow.unique denotes_two, hhigh.unique denotes_five] at hcell
    · exact fun hcell => ⟨_, _, denotes_two, denotes_five, hcell⟩
  · constructor
    · rintro ⟨-, j, hj, v, hv, hcell⟩
      rcases List.mem_pair.1 hj with rfl | rfl
      · exact .inl (hv.unique (.text "Acme") ▸ hcell)
      · exact .inr (hv.unique (.intText 7) ▸ hcell)
    · rintro (hcell | hcell)
      · exact ⟨by simp [hcell, cellOf], _, List.mem_cons_self, _, .text "Acme", hcell⟩
      · exact ⟨by simp [hcell, cellOf], _, by simp, _, .intText 7, hcell⟩
  · constructor
    · rintro ⟨relation, hrelation, v, hv, hcell⟩
      cases hrelation
      rwa [hv.unique denotes_marchMorning] at hcell
    · exact fun hcell => ⟨.ge, rfl, _, denotes_marchMorning, hcell⟩

end IncidentBoard.Plan
