import IncidentBoard.Proofs.Json.Values
import IncidentBoard.Widget.Reader
import IncidentBoard.Widget.Writer

/-! Definitions are read back from their JSON. -/
namespace IncidentBoard

namespace Document

variable {α : Type} {read : Document → Option α} {write : α → Json}

/-- A member that is left out when there is no value for it. -/
theorem optional_absent {a : Option α} (hread : ∀ x ∈ a, read (ofJson (write x)) = some x)
    (hnull : ∀ x, ofJson (write x) ≠ .null) : optional read (a.map (ofJson ∘ write)) = some a := by
  cases a with
  | none => rfl
  | some a =>
    rw [Option.map_some, Function.comp_apply, optional, hread a rfl, Option.map_some]
    exact hnull a

/-- A member that is null when there is no value for it. -/
theorem optional_null (hread : ∀ x, read (ofJson (write x)) = some x)
    (hnull : ∀ x, ofJson (write x) ≠ .null) (a : Option α) :
    optional read (some (ofJson (Json.ofOption write a))) = some a := by
  cases a with
  | none => rfl
  | some a =>
    rw [Json.ofOption, optional, hread, Option.map_some]
    exact hnull a

theorem list?_arr {as : List α} (hread : ∀ a ∈ as, read (ofJson (write a)) = some a) :
    list? read (ofJson (.arr (as.map write))) = some as := by
  rw [ofJson, list?]
  induction as with
  | nil => rfl
  | cons a as ih =>
    rw [List.forall_mem_cons] at hread
    rw [List.map_cons, ofItems, List.mapM_cons, hread.1, ih hread.2]
    rfl

theorem exists_of_optional {x : Option Document} {a : α} (h : optional read x = some (some a)) :
    ∃ d, read d = some a := by
  unfold optional at h
  split at h
  · cases h
  · cases h
  · obtain ⟨b, hb, hba⟩ := Option.map_eq_some_iff.1 h
    cases hba
    exact ⟨_, hb⟩

theorem exists_of_withDefault {default : α} {x : Option Document} {a : α}
    (h : withDefault default read x = some a) :
    a = default ∨ ∃ d, read d = some a := by
  cases x with
  | none => exact .inl (Option.some.inj h).symm
  | some d => exact .inr ⟨d, h⟩

theorem exists_of_list? {d : Document} {as : List α} (h : list? read d = some as) {a : α}
    (ha : a ∈ as) :
    ∃ d, read d = some a := by
  cases d with
  | arr items =>
    rw [list?] at h
    induction items generalizing as with
    | nil =>
      cases h
      cases ha
    | cons d items ih =>
      simp only [List.mapM_cons, Option.bind_eq_bind, Option.bind_eq_some_iff, Option.pure_def,
        Option.some.injEq] at h
      obtain ⟨b, hb, bs, hbs, rfl⟩ := h
      rcases List.mem_cons.1 ha with rfl | ha
      · exact ⟨d, hb⟩
      · exact ih ha hbs
  | _ => cases h

end Document

namespace Widget

open Document

/-- The conditions of a definition's fields, and those on all its rows. -/
def Definition.conditions (d : Definition) : List Filter :=
  d.fields.filterMap (·.filter) ++ d.filters

/-- The values that a definition's filters compare with are objects with ascending keys, wherever
they are objects. -/
def Definition.Ordered (d : Definition) : Prop := ∀ f ∈ d.conditions, f.value.Ordered

theorem lookup_member {α : Type} (key : String) (write : α → Json) (a : Option α) (k : String) :
    (member key write a).lookup k = if k = key then a.map write else none := by
  cases a <;> simp [member, Keyed.lookup_cons_eq]

theorem Filter.read_toJson {f : Filter} (h : f.value.Ordered) :
    Filter.read (ofJson f.toJson) = some f := by
  rw [Filter.read, Filter.toJson, fields?_ofMembers (by simp) (by simp)]
  simp [Keyed.lookup_cons_eq, asString?, ofJson, withDefault, value?_ofJson h]

theorem Field.read_toJson {f : Field} (h : ∀ c ∈ f.filter, c.value.Ordered) :
    Field.read (ofJson f.toJson) = some f := by
  have text (a : Option String) : optional asString? (a.map (ofJson ∘ .str)) = some a :=
    optional_absent (fun _ _ => rfl) (by simp [ofJson])
  have condition : optional Filter.read (f.filter.map (ofJson ∘ Filter.toJson)) = some f.filter :=
    optional_absent (fun c hc => Filter.read_toJson (h c hc)) fun c => by
      simp [Filter.toJson, Json.ofMembers, ofJson]
  rw [Field.read, Field.toJson, fields?_ofMembers]
  · simp [List.lookup_append, Keyed.lookup_cons_eq, lookup_member, asString?, ofJson, text,
      condition]
  · cases f.label <;> cases f.aggregation <;> cases f.filter <;> simp [member]
  · cases f.label <;> cases f.aggregation <;> cases f.filter <;> simp [member]

theorem optional_readEnum {α : Type} (all : List α) (name : α → String)
    (h : ∀ a, all.find? (name · == name a) = some a) (a : Option α) :
    optional (readEnum all name) (some (ofJson (Json.ofOption (fun a => .str (name a)) a))) =
      some a := by
  refine optional_null h (fun a => ?_) a
  simp [ofJson]

theorem readInt64_toInt (n : Int64) : readInt64 (.int n.toInt) = some n := by
  have hmin := n.minValue_le_toInt
  have hmax := n.toInt_le
  have hsigned : Word.isSigned n.toInt := by
    simp only [Word.isSigned, Bool.and_eq_true, decide_eq_true_eq]
    exact ⟨hmin, hmax⟩
  rw [readInt64, if_pos hsigned, Int64.ofInt_toInt]

theorem Options.read_toJson (o : Options) : Options.read (ofJson o.toJson) = some o := by
  have text (a : Option String) : optional asString? (some (ofJson (Json.ofOption .str a))) =
      some a :=
    optional_null (fun _ => rfl) (by simp [ofJson]) a
  have limit : optional readInt64 (some (ofJson (Json.ofOption (fun n => .int n.toInt) o.limit))) =
      some o.limit :=
    optional_null readInt64_toInt (by simp [ofJson]) o.limit
  have sort := optional_readEnum SortOrder.all SortOrder.name (by rintro ⟨⟩ <;> rfl) o.sort
  have display :=
    optional_readEnum DisplayMode.all DisplayMode.name (by rintro ⟨⟩ <;> rfl) o.display
  rw [Options.read, Options.toJson, fields?_ofMembers (by simp) (by simp)]
  simp [Keyed.lookup_cons_eq, text, limit, sort, display]

theorem Definition.read_toJson {d : Definition} (h : d.Ordered) :
    Definition.read (ofJson d.toJson) = some d := by
  have hconditions := List.forall_mem_append.1 h
  have chartType :=
    optional_readEnum ChartType.all ChartType.name (by rintro ⟨⟩ <;> rfl) d.chartType
  have bucket := optional_readEnum Bucket.all Bucket.name (by rintro ⟨⟩ <;> rfl) d.timeBucket
  have fields : list? Field.read (ofJson (.arr (d.fields.map Field.toJson))) = some d.fields :=
    list?_arr fun f hf => Field.read_toJson fun c hc =>
      hconditions.1 c (List.mem_filterMap.2 ⟨f, hf, hc⟩)
  have groups : list? asString? (ofJson (.arr (d.groupBy.map .str))) = some d.groupBy :=
    list?_arr fun _ _ => rfl
  have filters : list? Filter.read (ofJson (.arr (d.filters.map Filter.toJson))) = some d.filters :=
    list?_arr fun f hf => Filter.read_toJson (hconditions.2 f hf)
  rw [Definition.read, Definition.toJson, fields?_ofMembers (by simp) (by simp)]
  simp [Keyed.lookup_cons_eq, withDefault, chartType, bucket, fields, groups, filters,
    Options.read_toJson]

theorem Filter.ordered_of_read {doc : Document} {f : Filter} (h : Filter.read doc = some f) :
    f.value.Ordered := by
  simp only [Filter.read, Option.bind_eq_bind, Option.bind_eq_some_iff, Option.pure_def,
    Option.some.injEq] at h
  obtain ⟨field, -, -, -, table, -, -, -, column, -, -, -, operator, -, value, hvalue, rfl⟩ := h
  rcases exists_of_withDefault hvalue with rfl | ⟨d, hd⟩
  · exact .null
  · exact ordered_of_value? d hd

theorem Field.ordered_of_read {doc : Document} {f : Field} (h : Field.read doc = some f) :
    ∀ c ∈ f.filter, c.value.Ordered := by
  simp only [Field.read, Option.bind_eq_bind, Option.bind_eq_some_iff, Option.pure_def,
    Option.some.injEq] at h
  obtain ⟨field, -, -, -, table, -, -, -, column, -, label, -, aggregation, -,
      filter, hfilter, rfl⟩ := h
  rintro c rfl
  obtain ⟨d, hd⟩ := exists_of_optional hfilter
  exact Filter.ordered_of_read hd

/-- The values in a definition that was read are in order. -/
theorem Definition.ordered_of_read {doc : Document} {d : Definition}
    (h : Definition.read doc = some d) :
    d.Ordered := by
  simp only [Definition.read, Option.bind_eq_bind, Option.bind_eq_some_iff, Option.pure_def,
    Option.some.injEq] at h
  obtain ⟨field, -, chartType, -, fields, hfields, groupBy, -, filters, hfilters, timeBucket,
      -, options, -, rfl⟩ := h
  refine List.forall_mem_append.2 ⟨fun c hc => ?_, fun c hc => ?_⟩
  · obtain ⟨f, hf, hfc⟩ := List.mem_filterMap.1 hc
    rcases exists_of_withDefault hfields with rfl | ⟨doc, hdoc⟩
    · cases hf
    · obtain ⟨doc, hdoc⟩ := exists_of_list? hdoc hf
      exact Field.ordered_of_read hdoc c hfc
  · rcases exists_of_withDefault hfilters with rfl | ⟨doc, hdoc⟩
    · cases hc
    · obtain ⟨doc, hdoc⟩ := exists_of_list? hdoc hc
      exact Filter.ordered_of_read hdoc

/-- A definition is read back from its JSON, so that the JSON of whatever can be read is its normal
form. -/
theorem Definition.ofJson?_toJson :
    (∀ d : Definition, d.Ordered → Definition.ofJson? d.toJson = some d) ∧
      ∀ j d, Definition.ofJson? j = some d →
        (Definition.ofJson? d.toJson).map toJson = some d.toJson := by
  refine ⟨fun d h => read_toJson h, fun j d h => ?_⟩
  have hback : ofJson? d.toJson = some d := read_toJson (ordered_of_read h)
  rw [hback, Option.map_some]

/-- The share of severe incidents by client, with a condition on all rows that compares with an
object. -/
def severeByClient : Definition where
  chartType := some .timechart
  fields := [⟨"alerts", "alert_id", some "share", some "ratio",
    some ⟨"alerts", "alert_severity_id", "gte", .int 4⟩⟩]
  groupBy := ["client.client_name"]
  filters :=
    [⟨"alerts", "alert_title", "in", .arr [.null, .obj [("a", .float 0.5), ("b", .str "")]]⟩]
  timeBucket := some .fiveMinutes
  options := { limit := some 5, display := some .numberPercentage }

theorem ofJson?_toJson_severeByClient :
    severeByClient.Ordered ∧ Definition.ofJson? severeByClient.toJson = some severeByClient := by
  have hordered : severeByClient.Ordered := by
    have hobj : (Json.obj [("a", .float 0.5), ("b", .str "")]).Ordered :=
      .obj (by decide) (by simp [Json.Ordered.float, Json.Ordered.str])
    have harr : (Json.arr [.null, .obj [("a", .float 0.5), ("b", .str "")]]).Ordered :=
      .arr (by simp [Json.Ordered.null, hobj])
    simp [Definition.Ordered, Definition.conditions, severeByClient, Json.Ordered.int, harr]
  exact ⟨hordered, Definition.ofJson?_toJson.1 severeByClient hordered⟩

end Widget

end IncidentBoard
