import IncidentBoard.Json.Document

/-! The values that documents hold, and the members that are written for records. -/
namespace IncidentBoard

/-- The keys of every object ascend. -/
inductive Json.Ordered : Json → Prop
  | null : Ordered .null
  | bool (b : Bool) : Ordered (.bool b)
  | int (n : Int) : Ordered (.int n)
  | float (x : Float) : Ordered (.float x)
  | str (s : String) : Ordered (.str s)
  | arr {items : List Json} (h : ∀ j ∈ items, j.Ordered) : Ordered (.arr items)
  | obj {members : List (String × Json)} (hkeys : members.Pairwise fun a b => a.1 < b.1)
      (h : ∀ m ∈ members, m.2.Ordered) : Ordered (.obj members)

namespace Document

theorem itemValues?_ofItems {items : List Json} (h : ∀ j ∈ items, (ofJson j).value? = some j) :
    itemValues? (ofItems items) = some items := by
  induction items with
  | nil => rfl
  | cons j rest ih =>
    rw [List.forall_mem_cons] at h
    rw [ofItems, itemValues?, h.1, ih h.2]
    rfl

theorem memberValues?_ofMembers {members : List (String × Json)}
    (h : ∀ m ∈ members, (ofJson m.2).value? = some m.2) :
    memberValues? (ofMembers members) = some members := by
  induction members with
  | nil => rfl
  | cons m rest ih =>
    rw [List.forall_mem_cons] at h
    rw [ofMembers, memberValues?, h.1, ih h.2]
    rfl

/-- A value is read as it is. -/
theorem value?_ofJson {j : Json} (h : j.Ordered) : (ofJson j).value? = some j := by
  induction h with
  | null | bool | int | float | str => rfl
  | arr _ ih => rw [ofJson, value?, itemValues?_ofItems ih, Option.map_some]
  | obj hkeys _ ih =>
    rw [ofJson, value?, memberValues?_ofMembers ih, Option.map_some, Json.ofMembers,
      Keyed.entries_ofList hkeys]

theorem ordered_ofMembers {members : List (String × Json)} (h : ∀ m ∈ members, m.2.Ordered) :
    (Json.ofMembers members).Ordered :=
  .obj (Keyed.ofList members).ascending fun m hm => h m (Keyed.mem_of_mem_ofList hm)

mutual

/-- What is read has its keys in order, however they were written. -/
theorem ordered_of_value? (d : Document) {j : Json} (h : d.value? = some j) : j.Ordered := by
  cases d with
  | null | bool | int | float | str =>
    rw [value?, Option.some.injEq] at h
    subst h
    constructor
  | arr items =>
    rw [value?, Option.map_eq_some_iff] at h
    obtain ⟨js, hjs, rfl⟩ := h
    exact .arr (ordered_of_itemValues? items hjs)
  | obj members =>
    rw [value?, Option.map_eq_some_iff] at h
    obtain ⟨js, hjs, rfl⟩ := h
    exact ordered_ofMembers (ordered_of_memberValues? members hjs)
  | unreadable => cases h

theorem ordered_of_itemValues? (items : List Document) {js : List Json}
    (h : itemValues? items = some js) :
    ∀ j ∈ js, j.Ordered := by
  cases items with
  | nil =>
    cases h
    simp
  | cons d rest =>
    simp only [itemValues?, Option.bind_eq_bind, Option.bind_eq_some_iff, Option.pure_def,
      Option.some.injEq] at h
    obtain ⟨j, hj, js, hjs, rfl⟩ := h
    exact List.forall_mem_cons.2 ⟨ordered_of_value? d hj, ordered_of_itemValues? rest hjs⟩

theorem ordered_of_memberValues? (members : List (Option String × Document))
    {js : List (String × Json)} (h : memberValues? members = some js) : ∀ m ∈ js, m.2.Ordered := by
  cases members with
  | nil =>
    cases h
    simp
  | cons member rest =>
    obtain ⟨key, d⟩ := member
    simp only [memberValues?, Option.bind_eq_bind, Option.bind_eq_some_iff, Option.pure_def,
      Option.some.injEq] at h
    obtain ⟨k, -, j, hj, js, hjs, rfl⟩ := h
    exact List.forall_mem_cons.2 ⟨ordered_of_value? d hj, ordered_of_memberValues? rest hjs⟩

end

section Records

variable {names : List String} {members : List (String × Json)}

theorem mapM_ofMembers (members : List (String × Json)) :
    (ofMembers members).mapM (fun (key, d) => key.map fun k => (k, d)) =
      some (members.map fun m => (m.1, ofJson m.2)) := by
  induction members with
  | nil => rfl
  | cons m rest ih =>
    rw [ofMembers, List.mapM_cons, ih]
    rfl

theorem lookup_map_ofJson (members : List (String × Json)) (key : String) :
    (members.map fun m => (m.1, ofJson m.2)).lookup key = (members.lookup key).map ofJson := by
  induction members with
  | nil => rfl
  | cons m rest ih =>
    rw [List.map_cons, Keyed.lookup_cons_eq, Keyed.lookup_cons_eq, ih]
    split <;> rfl

/-- The fields of a record that was written from distinct members, all of them known. -/
theorem fields?_ofMembers (hnodup : (members.map (·.1)).Nodup)
    (hnames : ∀ m ∈ members, m.1 ∈ names) :
    (ofJson (Json.ofMembers members)).fields? names = some fun key =>
      (members.lookup key).map ofJson := by
  let known := (Keyed.ofList members).entries.map fun m => (m.1, ofJson m.2)
  have hascending : ((Keyed.ofList members).entries.map (·.1)).Pairwise (· < ·) :=
    List.pairwise_map.2 (Keyed.ofList members).ascending
  have hkeys : (known.map Prod.fst).Nodup := by
    rw [List.map_map]
    exact hascending.imp fun h => Std.ne_of_lt h
  have hknown : known.filter (fun e => names.contains e.1) = known := by
    refine List.filter_eq_self.2 fun e he => ?_
    obtain ⟨m, hm, rfl⟩ := List.mem_map.1 he
    exact List.contains_iff_mem.2 (hnames m (Keyed.mem_of_mem_ofList hm))
  have hlookup (key : String) : known.lookup key = (members.lookup key).map ofJson := by
    rw [lookup_map_ofJson]
    exact congrArg (Option.map ofJson) (Keyed.get?_ofList_of_nodup hnodup key)
  rw [Json.ofMembers, ofJson, fields?, mapM_ofMembers]
  simp only [Option.bind_eq_bind, Option.bind_some]
  rw [hknown, if_pos hkeys, funext hlookup]

end Records

end Document

end IncidentBoard
