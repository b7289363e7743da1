import IncidentBoard.Plan.Compile

/-! Which rows a principal may see, as a condition that every query of theirs gets. -/
namespace IncidentBoard.Access

open Sql Schema Plan

/-- Puts an id into an ascending list that does not hold it twice. -/
def insertId (n : Int) : List Int → List Int
  | [] => [n]
  | m :: ms => if n < m then n :: m :: ms else if n = m then m :: ms else m :: insertId n ms

theorem mem_insertId {n k : Int} {l : List Int} : k ∈ insertId n l ↔ k = n ∨ k ∈ l := by
  induction l with
  | nil => simp [insertId]
  | cons m ms ih =>
    simp only [insertId]
    split
    · simp
    · split
      · simp_all
      · simp only [List.mem_cons, ih]
        constructor
        · rintro (h | h | h) <;> simp [h]
        · rintro (h | h | h) <;> simp [h]

theorem pairwise_insertId {n : Int} {l : List Int} (h : l.Pairwise (· < ·)) :
    (insertId n l).Pairwise (· < ·) := by
  induction l with
  | nil => simp [insertId]
  | cons m ms ih =>
    rw [List.pairwise_cons] at h
    simp only [insertId]
    split
    · next hn =>
      refine List.pairwise_cons.2 ⟨fun k hk => ?_, List.pairwise_cons.2 h⟩
      rcases List.mem_cons.1 hk with rfl | hk
      · exact hn
      · exact Int.lt_trans hn (h.1 k hk)
    · split
      · exact List.pairwise_cons.2 h
      · refine List.pairwise_cons.2 ⟨fun k hk => ?_, ih h.2⟩
        rcases mem_insertId.1 hk with rfl | hk
        · omega
        · exact h.1 k hk

/-- A finite set of ids, listed in ascending order. -/
structure IdSet where
  toList : List Int
  ascending : toList.Pairwise (· < ·)
  deriving DecidableEq

namespace IdSet

def empty : IdSet := ⟨[], .nil⟩

def insert (s : IdSet) (n : Int) : IdSet := ⟨insertId n s.toList, pairwise_insertId s.ascending⟩

def ofList (ids : List Int) : IdSet := ids.foldl insert empty

instance : Membership Int IdSet := ⟨fun s n => n ∈ s.toList⟩

instance (n : Int) (s : IdSet) : Decidable (n ∈ s) := inferInstanceAs (Decidable (n ∈ s.toList))

def isEmpty (s : IdSet) : Bool := s.toList.isEmpty

end IdSet

/-- Every row, or the rows of some customers together with the rows linked to some cases. -/
inductive Scope
  | unrestricted
  | scoped (customers cases : IdSet)
  deriving DecidableEq

namespace Scope

def denyAll : Scope := .scoped .empty .empty

def isDenyAll : Scope → Bool
  | .unrestricted => false
  | .scoped customers cases => customers.isEmpty && cases.isEmpty

def bindIds (params : Params) (ids : IdSet) : List Expr × Params :=
  params.bindAll (ids.toList.map .int)

/-- The rows of customers; no condition for none of them. -/
def byCustomer (customers : IdSet) (params : Params) : Option Expr × Params :=
  if customers.isEmpty then (none, params)
  else
    let (ids, params) := bindIds params customers
    (some (.inList customerColumn.expr ids false), params)

/-- The rows that the link table links to one of the given cases. -/
def linkedRows (cases : List Expr) : Query :=
  { Query.empty with
    select := [{ expr := .qualified linkTable linkRowColumn }]
    source := some linkTable
    filter := some (.inList (.qualified linkTable linkCaseColumn) cases false) }

def byCase (cases : IdSet) (params : Params) : Option Expr × Params :=
  if cases.isEmpty then (none, params)
  else
    let (ids, params) := bindIds params cases
    (some (.inQuery rowColumn.expr (linkedRows ids) false), params)

/-- The condition of a restricted scope; without customers and cases no row meets it. -/
def restriction (customers cases : IdSet) (params : Params) : Expr × Params :=
  let (customer, params) := byCustomer customers params
  let (linked, params) := byCase cases params
  match customer, linked with
  | some a, some b => (.or a b, params)
  | some a, none => (a, params)
  | none, some b => (b, params)
  | none, none => (.never, params)

def predicate (s : Scope) (params : Params) : Option Expr × Params :=
  match s with
  | .unrestricted => (none, params)
  | .scoped customers cases =>
    let (e, params) := restriction customers cases params
    (some e, params)

/-- The plan on the rows of the scope alone. -/
def apply (s : Scope) (p : QueryPlan) : QueryPlan :=
  match s with
  | .unrestricted => p
  | .scoped customers cases => p.addPredicate (restriction customers cases)

end Scope

end IncidentBoard.Access
