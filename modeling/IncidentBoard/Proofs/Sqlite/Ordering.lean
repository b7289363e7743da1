import IncidentBoard.Proofs.Plan.Outline

/-! Which outputs SQLite takes the keys of an order for. Two aliases of one plan are never equal,
but SQLite does not tell capital letters from small ones. -/
namespace IncidentBoard

open Sql Widget Schema

namespace Sql.Sqlite

/-- A name as it is compared: the case of ASCII letters does not matter. -/
def folded (name : String) : List Char := name.toList.map Char.toLower

/-- The output that a key stands for, by its position: the first one whose alias is the name of the
key. -/
def orderedOutput? (select : List (Item Expr)) : Expr → Option Nat
  | .column none name =>
      select.findIdx? fun item => item.label.any fun label => folded label = folded name
  | _ => none

/-- A name without capital letters. -/
def IsSmall (name : String) : Prop := folded name = name.toList

instance (name : String) : Decidable (IsSmall name) := inferInstanceAs (Decidable (_ = _))

theorem IsSmall.eq_of_folded_eq {a b : String} (ha : IsSmall a) (hb : IsSmall b)
    (h : folded a = folded b) :
    a = b := String.toList_inj.1 (ha.symm.trans (h.trans hb))

theorem isSmall_defaultAlias {c : Column} (hc : c ∈ columns) : IsSmall c.defaultAlias := by
  have hall : ∀ c ∈ columns, IsSmall c.defaultAlias := by decide +kernel
  exact hall c hc

end Sql.Sqlite

namespace Plan

/-- What a requested order is about: the first value, or the first output if there is none. An axis
leaves nothing to request. -/
def requestedOutput? (selects : List Select) (hasAxis : Bool) (sort : Option SortOrder) :
    Option Select :=
  if hasAxis ∨ sort.isNone then none else (selects.find? (·.role == .value)).or selects.head?

/-- The outputs that the keys of an order are made for: what is requested, and the groups that are
not. -/
def orderedOutputs (selects : List Select) (hasAxis : Bool) (sort : Option SortOrder) :
    List Select :=
  let requested := (requestedOutput? selects hasAxis sort).toList
  requested ++ (selects.filter (·.role == .group)).filter (·.label ∉ requested.map (·.label))

open Sqlite

namespace QueryPlan

def orderedOutputs (p : QueryPlan) (sort : Option SortOrder) : List Select :=
  Plan.orderedOutputs p.selects p.timeLabel.isSome sort

/-- The output that SQLite takes a name for. -/
def outputNamed? (p : QueryPlan) (name : String) : Option Nat :=
  Sqlite.orderedOutput? (p.selects.map Select.item) (.col name)

end QueryPlan

section Keys

variable {selects : List Select} {hasAxis : Bool} {sort : Option SortOrder} {s : Select}

theorem map_fst_requestedKeys (selects : List Select) (hasAxis : Bool) (sort : Option SortOrder) :
    (requestedKeys selects hasAxis sort).map Prod.fst =
      (requestedOutput? selects hasAxis sort).toList.map (·.label) := by
  cases hasAxis with
  | true => rfl
  | false =>
    cases sort with
    | none => rfl
    | some sort =>
      simp [requestedKeys, requestedOutput?, requestedKey, Option.toList_map, Function.comp_def]

theorem map_fst_orderKeys (hasAxis : Bool) (sort : Option SortOrder)
    (h : (labels .group selects).Nodup) :
    (orderKeys selects hasAxis sort).map Prod.fst =
      (orderedOutputs selects hasAxis sort).map (·.label) := by
  rw [orderKeys_eq hasAxis sort h, List.map_append, map_fst_groupKeys, map_fst_requestedKeys,
    orderedOutputs, List.map_append, labels, List.filter_map]
  rfl

theorem mem_of_mem_orderedOutputs (h : s ∈ orderedOutputs selects hasAxis sort) : s ∈ selects := by
  rcases List.mem_append.1 h with h | h
  · unfold requestedOutput? at h
    split at h
    · cases h
    · rcases Option.or_eq_some_iff.1 (Option.mem_toList.1 h) with h | ⟨-, h⟩
      · exact List.mem_of_find?_eq_some h
      · exact List.mem_of_mem_head? h
  · exact List.mem_of_mem_filter (List.mem_of_mem_filter h)

end Keys

section Names

variable {p : QueryPlan} {s : Select} {name : String} {i : Nat}

theorem outputNamed?_eq (p : QueryPlan) (name : String) :
    p.outputNamed? name = p.selects.findIdx? fun s => folded s.label = folded name := by
  have hitems := List.findIdx?_map (f := Select.item) (l := p.selects)
    (p := fun item => item.label.any fun label => folded label = folded name)
  exact hitems

/-- A name stands for the output that has it, unless one in front of it has it as well. -/
theorem outputNamed?_eq_iff (h : p.selects[i]? = some s) :
    p.outputNamed? s.label = some i ↔
      ∀ j < i, ∀ t ∈ p.selects[j]?, folded t.label ≠ folded s.label := by
  obtain ⟨hi, rfl⟩ := List.getElem?_eq_some_iff.1 h
  rw [outputNamed?_eq, List.findIdx?_eq_some_iff_getElem]
  constructor
  · intro ⟨_, _, hbefore⟩ j hj t ht
    obtain ⟨hj', rfl⟩ := List.getElem?_eq_some_iff.1 ht
    simpa using hbefore j hj
  · intro hbefore
    refine ⟨hi, by simp, fun j hj => ?_⟩
    simpa using hbefore j hj _ (List.getElem?_eq_getElem (Nat.lt_trans hj hi))

/-- A name that an output has stands for one that has it. -/
theorem exists_outputNamed? (h : p.selects[i]? = some s) :
    ∃ j ≤ i, ∃ t, p.selects[j]? = some t ∧ p.outputNamed? s.label = some j ∧
      folded t.label = folded s.label := by
  have hsome : (p.selects.findIdx? fun t => folded t.label = folded s.label).isSome := by
    rw [List.findIdx?_isSome, List.any_eq_true]
    exact ⟨s, List.mem_of_getElem? h, by simp⟩
  obtain ⟨j, hj⟩ := Option.isSome_iff_exists.1 hsome
  obtain ⟨hlen, hname, hbefore⟩ := List.findIdx?_eq_some_iff_getElem.1 hj
  refine ⟨j, ?_, _, List.getElem?_eq_getElem hlen, (outputNamed?_eq p _).trans hj,
    by simpa using hname⟩
  by_contra hlt
  obtain ⟨hi, rfl⟩ := List.getElem?_eq_some_iff.1 h
  exact hbefore i (Nat.lt_of_not_le hlt) (by simp)

end Names

section Aliases

/-- An alias is given in a field, or is that of a registered column. -/
def Named (fields : List Field) (label : String) : Prop :=
  (∃ f ∈ fields, f.label = some label) ∨ ∃ c ∈ columns, label = c.defaultAlias

namespace Draft

variable {fields : List Field} {d d' : Draft}

def Labelled (fields : List Field) (d : Draft) : Prop := ∀ a ∈ d.aliases, Named fields a

theorem Labelled.claim (h : d.Labelled fields) {label : String} (hl : Named fields label) :
    ∀ a ∈ d.aliases ++ [label], Named fields a := by
  intro a ha
  rcases List.mem_append.1 ha with ha | ha
  · exact h a ha
  · exact List.mem_singleton.1 ha ▸ hl

theorem Labelled.addGroup {c : Column} {label : String} (h : d.Labelled fields)
    (hl : Named fields label) (hg : (d.requireTable c.table).addGroup c label = .ok d') :
    d'.Labelled fields :=
  addGroup_cases (P := Labelled fields) (fun _ => h) (fun _ _ _ => h.claim hl)
    (fun _ _ _ _ _ => h.claim hl) hg

theorem Labelled.addField {f : Field} (hf : f ∈ fields) (h : d.Labelled fields)
    (ha : d.addField f = .ok d') :
    d'.Labelled fields := by
  obtain ⟨c, hc, hcases⟩ := addField_ok ha
  have hl : Named fields (f.label.getD c.defaultAlias) := by
    cases hlabel : f.label with
    | none => exact .inr ⟨c, mem_columns_of_resolve hc, rfl⟩
    | some label => exact .inl ⟨f, hf, hlabel⟩
  rcases hcases with ⟨-, -, ha⟩ | ⟨name, a, -, -, ha⟩
  · exact h.addGroup hl ha
  · obtain ⟨condition, d₁, e, -, -, -, -, rfl⟩ := addAggregate_ok ha
    exact h.claim hl

theorem Labelled.addReference {reference : String} (h : d.Labelled fields)
    (ha : d.addReference reference = .ok d') : d'.Labelled fields := by
  obtain ⟨c, hc, ha⟩ := ok_of_bind ha
  exact h.addGroup (.inr ⟨c, mem_columns_of_resolveReference hc, rfl⟩) ha

theorem Labelled.addFilter {f : Filter} (h : d.Labelled fields) (ha : d.addFilter f = .ok d') :
    d'.Labelled fields := by
  obtain ⟨⟨e, d₁⟩, hf, ha⟩ := ok_of_bind ha
  obtain ⟨c, -, params, -, rfl⟩ := filter_ok hf
  cases ha
  exact h

theorem Labelled.ensureAxis (hc : d'.timeColumn ∈ columns) (h : d.Labelled fields)
    (ha : d.ensureAxis = .ok d') : d'.Labelled fields := by
  rcases ensureAxis_ok ha with ⟨rfl, -⟩ | ⟨b, -, -, -, rfl⟩
  · exact h
  · exact h.claim (.inr ⟨_, hc, rfl⟩)

end Draft

/-- All aliases of a plan are given in its fields or those of registered columns. -/
theorem labelled_of_build {definition : Definition} {w : Timeframe} {time : Column} {d : Draft}
    (hc : d.timeColumn ∈ columns) (h : build definition w time = .ok d) :
    d.Labelled definition.fields := by
  obtain ⟨d₁, hfields, h⟩ := ok_of_bind h
  obtain ⟨d₂, hgroups, h⟩ := ok_of_bind h
  obtain ⟨d₃, hfilters, h⟩ := ok_of_bind h
  have l₁ : d₁.Labelled definition.fields :=
    Draft.foldlM_keeps (fun hf hd ha => hd.addField hf ha) (fun a ha => by cases ha) hfields
  have l₂ : d₂.Labelled definition.fields :=
    Draft.foldlM_keeps (fun _ hd ha => hd.addReference ha) l₁ hgroups
  have l₃ : d₃.Labelled definition.fields :=
    Draft.foldlM_keeps (fun _ hd ha => hd.addFilter ha) l₂ hfilters
  have l₄ : (d₃.addWindow w).Labelled definition.fields :=
    Draft.addWindow_keeps (P := Draft.Labelled definition.fields) (fun _ hd => hd) l₃ w
  exact l₄.ensureAxis hc h

/-- Of two aliases that differ in case alone one is given in a field, with a capital letter. -/
theorem exists_capital {fields : List Field} {a b : String} (ha : Named fields a)
    (hb : Named fields b) (hne : a ≠ b) (hfolded : folded a = folded b) :
    ∃ f ∈ fields, ∃ label, f.label = some label ∧ ¬ IsSmall label ∧ (label = a ∨ label = b) := by
  have small {x : String} (hx : Named fields x) (hcapital : ¬ IsSmall x) : ∃ f ∈ fields, f.label =
      some x := by
    rcases hx with hx | ⟨c, hc, rfl⟩
    · exact hx
    · exact absurd (isSmall_defaultAlias hc) hcapital
  by_cases hsmall : IsSmall a
  · have hcapital : ¬ IsSmall b := fun h => hne (hsmall.eq_of_folded_eq h hfolded)
    obtain ⟨f, hf, hlabel⟩ := small hb hcapital
    exact ⟨f, hf, b, hlabel, hcapital, .inr rfl⟩
  · obtain ⟨f, hf, hlabel⟩ := small ha hsmall
    exact ⟨f, hf, a, hlabel, hsmall, .inl rfl⟩

end Aliases

/-- The keys of an order and the outputs that SQLite takes them for: their own, or one in front of
it whose alias differs in case alone. Then one of the two aliases is given in a field, with a
capital letter. -/
structure QueryPlan.Ordered (p : QueryPlan) (fields : List Field) (sort : Option SortOrder) :
    Prop where
  keys : p.orderBy.map (·.expr) = (p.orderedOutputs sort).map fun s => .col s.label
  outputs : p.orderedOutputs sort ⊆ p.selects
  own : ∀ i s, p.selects[i]? = some s →
    (p.outputNamed? s.label = some i ↔
      ∀ j < i, ∀ t ∈ p.selects[j]?, folded t.label ≠ folded s.label)
  other : ∀ i s, p.selects[i]? = some s → p.outputNamed? s.label ≠ some i →
    ∃ j < i, ∃ t, p.selects[j]? = some t ∧ p.outputNamed? s.label = some j ∧ t.label ≠ s.label ∧
      folded t.label = folded s.label ∧
      ∃ f ∈ fields, ∃ label, f.label = some label ∧ ¬ IsSmall label ∧
      (label = t.label ∨ label = s.label)

section Compiled

variable {definition : Definition} {w : Timeframe} {maxLimit : Nat} {p : QueryPlan} {d : Draft}

theorem Compiled.keys_eq (h : Compiled definition w maxLimit p d) :
    p.orderBy.map (·.expr) = (p.orderedOutputs definition.options.sort).map fun s =>
      .col s.label := by
  have hkeys := map_fst_orderKeys d.axis.isSome definition.options.sort
    (nodup_groupLabels h.outlined_draft.nodup_labels)
  have hnames := congrArg (List.map Expr.col) hkeys
  rw [List.map_map, List.map_map] at hnames
  rw [h.finish, QueryPlan.orderedOutputs]
  simp only [Draft.finish, List.map_map, Option.isSome_map]
  exact hnames

theorem Compiled.named (h : Compiled definition w maxLimit p d) {i : Nat} {s : Select}
    (hs : p.selects[i]? = some s) : Named definition.fields s.label := by
  have hlabel : s.label ∈ d.outputs.map (·.label) := by
    rw [h.finish] at hs
    exact List.mem_map_of_mem (List.mem_of_getElem? hs)
  exact labelled_of_build (timeColumnOf_mem_columns h.time) h.build _
    (h.outlined_draft.labels.mem_iff.1 hlabel)

theorem Compiled.ordered (h : Compiled definition w maxLimit p d) :
    p.Ordered definition.fields definition.options.sort := by
  refine ⟨h.keys_eq, fun s => mem_of_mem_orderedOutputs, fun i s => outputNamed?_eq_iff,
    fun i s hs hother => ?_⟩
  obtain ⟨j, hle, t, ht, hname, hfolded⟩ := exists_outputNamed? hs
  have hne : j ≠ i := fun he => hother (he ▸ hname)
  have hlabels : t.label ≠ s.label := by
    intro he
    have hsame : p.selectLabels[j]? = p.selectLabels[i]? := by
      simp only [QueryPlan.selectLabels, List.getElem?_map, ht, hs, Option.map_some, he]
    have hlen : j < p.selectLabels.length := by
      simpa [QueryPlan.selectLabels] using (List.getElem?_eq_some_iff.1 ht).1
    exact hne ((List.getElem?_inj hlen h.outlined.aliases).1 hsame)
  exact ⟨j, Nat.lt_of_le_of_ne hle hne, t, ht, hname, hlabels, hfolded,
    exists_capital (h.named ht) (h.named hs) hlabels hfolded⟩

end Compiled

/-- Without capital letters in the aliases that are given every key of an order is taken for the
output it is made for. -/
theorem QueryPlan.Ordered.own_of_isSmall {p : QueryPlan} {fields : List Field}
    {sort : Option SortOrder} (h : p.Ordered fields sort)
    (hsmall : ∀ f ∈ fields, ∀ label ∈ f.label, IsSmall label) {i : Nat} {s : Select}
    (hs : p.selects[i]? = some s) : p.outputNamed? s.label = some i := by
  by_contra hother
  obtain ⟨j, -, t, -, -, -, -, f, hf, label, hlabel, hcapital, -⟩ := h.other i s hs hother
  exact hcapital (hsmall f hf label hlabel)

/-- Every key of the order of a plan is made for an output of its own: the first value if an order
is requested, or the first output, and then the groups. SQLite takes it for that output exactly if
no output in front of it has the same alias up to case, which only aliases with capital letters can
bring about. -/
theorem ordered_of_compile {definition : Definition} {w : Timeframe} {maxLimit : Nat}
    {p : QueryPlan} (h : compile definition w maxLimit = .ok p) :
    p.Ordered definition.fields definition.options.sort ∧
    ((∀ f ∈ definition.fields, ∀ label ∈ f.label, IsSmall label) →
      ∀ i s, p.selects[i]? = some s → p.outputNamed? s.label = some i) := by
  obtain ⟨d, hc⟩ := compiled_of_compile h
  exact ⟨hc.ordered, fun hsmall i s hs => hc.ordered.own_of_isSmall hsmall hs⟩

theorem ordered_of_compile_severeShare : ∃ p, compile severeShare sinceMarch 10000 = .ok p ∧
    p.Ordered severeShare.fields none ∧ ∀ i s, p.selects[i]? = some s →
      p.outputNamed? s.label = some i := by
  obtain ⟨p, hp, -⟩ := exists_compile_severeShare
  obtain ⟨hordered, hown⟩ := ordered_of_compile hp
  have hsmall : ∀ f ∈ severeShare.fields, ∀ label ∈ f.label, IsSmall label := by decide
  exact ⟨p, hp, hordered, hown hsmall⟩

/-- How many alerts there are of each severity, under aliases that differ in case alone: the three
severities that come first. -/
def severityCounts : Definition where
  chartType := some .bar
  fields := [⟨"alerts", "alert_id", some "Severity", some "count", none⟩,
    ⟨"severities", "severity_name", some "severity", none, none⟩]
  options := { limit := some 3 }

/-- The one key of the order is made for the severity, and taken for the count. -/
theorem exists_misordered_severityCounts : ∃ p s, compile severityCounts .unbounded 10000 = .ok p ∧
    p.orderedOutputs none = [s] ∧ p.orderBy.map (·.expr) = [.col s.label] ∧
    p.selects[1]? = some s ∧ p.outputNamed? s.label = some 0 := by
  let severity : Select := ⟨.qualified "severities" "severity_name", "severity", .group, some .text⟩
  have hcompile : (compile severityCounts .unbounded 10000).map (fun p =>
      (p.orderedOutputs none, p.orderBy.map (·.expr), p.selects[1]?, p.outputNamed? "severity")) =
      .ok ([severity], [.col "severity"], some severity, some 0) := by
    rfl
  obtain ⟨p, hp, hparts⟩ := ok_of_map hcompile
  obtain ⟨houtputs, hparts⟩ := Prod.mk.inj hparts
  obtain ⟨hkeys, hparts⟩ := Prod.mk.inj hparts
  obtain ⟨hselect, hname⟩ := Prod.mk.inj hparts
  exact ⟨p, severity, hp, houtputs, hkeys, hselect, hname⟩

end Plan

end IncidentBoard
