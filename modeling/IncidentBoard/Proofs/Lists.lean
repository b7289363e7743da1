import Mathlib.Data.List.Forall2

/-! Two lists whose entries belong together: each with each, or some of the first with all of the
second. -/
namespace IncidentBoard

variable {α β : Type}

theorem exists_getElem?_of_forall₂ {R : α → β → Prop} {xs : List α} {ys : List β}
    (h : List.Forall₂ R xs ys) {i : Nat} {x : α} (hx : xs[i]? = some x) :
    ∃ y, ys[i]? = some y ∧ R x y := by
  obtain ⟨hlength, hget⟩ := List.forall₂_iff_get.1 h
  obtain ⟨hi, rfl⟩ := List.getElem?_eq_some_iff.1 hx
  exact ⟨ys[i], List.getElem?_eq_getElem _, hget i hi (hlength ▸ hi)⟩

/-- What the entries of a list give, in their order. Entries without anything in this relation give
nothing. -/
inductive Picks (P : α → β → Prop) : List α → List β → Prop
  | nil : Picks P [] []
  | take {x : α} {y : β} {xs : List α} {ys : List β} (h : P x y) (hrest : Picks P xs ys) :
      Picks P (x :: xs) (y :: ys)
  | skip {x : α} {xs : List α} {ys : List β} (h : ∀ y, ¬ P x y) (hrest : Picks P xs ys) :
      Picks P (x :: xs) ys

/-- A relation that is the graph of a partial function picks what the function has a value for. -/
theorem picks_iff {P : α → β → Prop} {f : α → Option β} (hf : ∀ x y, f x = some y ↔ P x y)
    {xs : List α} {ys : List β} : Picks P xs ys ↔ xs.filterMap f = ys := by
  constructor
  · intro h
    induction h with
    | nil => rfl
    | take h _ ih => rw [List.filterMap_cons_some ((hf _ _).2 h), ih]
    | skip h _ ih =>
      have hnone := Option.eq_none_iff_forall_ne_some.2 fun y hy => h y ((hf _ _).1 hy)
      rw [List.filterMap_cons_none hnone, ih]
  · rintro rfl
    induction xs with
    | nil => exact .nil
    | cons x xs ih =>
      cases hx : f x with
      | none =>
        rw [List.filterMap_cons_none hx]
        refine .skip (fun y hy => ?_) ih
        rw [(hf x y).2 hy] at hx
        cases hx
      | some y =>
        rw [List.filterMap_cons_some hx]
        exact .take ((hf x y).1 hx) ih

theorem Picks.unique {P : α → β → Prop} (hP : ∀ x y y', P x y → P x y' → y = y') {xs : List α}
    {ys ys' : List β} (h : Picks P xs ys) (h' : Picks P xs ys') : ys = ys' := by
  induction h generalizing ys' with
  | nil =>
    cases h'
    rfl
  | take hx _ ih =>
    cases h' with
    | take hx' hrest => rw [hP _ _ _ hx hx', ih hrest]
    | skip hno => exact absurd hx (hno _)
  | skip hno _ ih =>
    cases h' with
    | take hx' => exact absurd hx' (hno _)
    | skip _ hrest => exact ih hrest

theorem picks_filter_map {P : α → β → Prop} {p : α → Bool} {f : α → β}
    (htake : ∀ x, p x → P x (f x)) (hskip : ∀ x, ¬ p x → ∀ y, ¬ P x y) (xs : List α) :
    Picks P xs ((xs.filter p).map f) := by
  induction xs with
  | nil => exact .nil
  | cons x xs ih =>
    by_cases hx : p x
    · rw [List.filter_cons_of_pos hx]
      exact .take (htake x hx) ih
    · rw [List.filter_cons_of_neg hx]
      exact .skip (hskip x hx) ih

end IncidentBoard
