import IncidentBoard.Plan.Basic
import IncidentBoard.Proofs.Sql.Placeholders

/-! What a condition says about a row: three-valued logic over the values of columns and
parameters. -/
namespace IncidentBoard.Sql

/-- True, false or unknown. -/
abbrev Truth := Option Bool

namespace Truth

def and : Truth → Truth → Truth
  | some false, _ | _, some false => some false
  | some true, some true => some true
  | _, _ => none

def or : Truth → Truth → Truth
  | some true, _ | _, some true => some true
  | some false, some false => some false
  | _, _ => none

def not (a : Truth) : Truth := a.map (!·)

def negateIf (negated : Bool) (a : Truth) : Truth := if negated then a.not else a

/-- Whether one of them is true; nothing is one of none. -/
def any (as : List Truth) : Truth := as.foldr or (some false)

@[simp] theorem negateIf_false (a : Truth) : a.negateIf false = a := rfl

theorem and_eq_true {a b : Truth} : a.and b = some true ↔ a = some true ∧ b = some true := by
  rcases a with _ | _ | _ <;> rcases b with _ | _ | _ <;> simp [and]

theorem or_eq_true {a b : Truth} : a.or b = some true ↔ a = some true ∨ b = some true := by
  rcases a with _ | _ | _ <;> rcases b with _ | _ | _ <;> simp [or]

theorem any_eq_true {as : List Truth} : any as = some true ↔ some true ∈ as := by
  induction as with
  | nil => simp [any]
  | cons a as ih => rw [any, List.foldr_cons, or_eq_true, ← any, ih, List.mem_cons, eq_comm]

theorem or_eq_false {a b : Truth} : a.or b = some false ↔ a = some false ∧ b = some false := by
  rcases a with _ | _ | _ <;> rcases b with _ | _ | _ <;> simp [or]

theorem any_eq_false {as : List Truth} : any as = some false ↔ ∀ a ∈ as, a = some false := by
  induction as with
  | nil => simp [any]
  | cons a as ih => rw [any, List.foldr_cons, or_eq_false, ← any, ih, List.forall_mem_cons]

theorem not_eq_true {a : Truth} : a.not = some true ↔ a = some false := by
  rcases a with _ | _ | _ <;> simp [not]

end Truth

/-- The value of an expression. -/
inductive Datum
  | null
  | value (v : SqlValue)
  | truth (b : Bool)
  deriving DecidableEq

def Datum.ofTruth : Truth → Datum
  | some b => .truth b
  | none => .null

/-- The values of the columns in sight; the columns of a table have its name before them. -/
abbrev Row := Option String → String → Datum

/-- Inside a subquery the columns of its table come before those around it. -/
def Row.enter (row : Row) (table : String) (cells : String → Datum) : Row := fun t name =>
  if t = none ∨ t = some table then cells name else row t name

/-- The tables of a store, and what is the store's own in how it calculates. -/
structure Database where
  rows : String → List (String → Datum)
  before : Datum → Datum → Bool
  holds : SqlValue → Truth
  number : Float → Datum
  arithmetic : BinOp → Datum → Datum → Datum
  call : String → Bool → List Datum → Datum
  resembles : Datum → Datum → Char → Bool → Truth
  bucket : Bucket → Datum → Datum
  time : Datum → Datum
  /-- The answer to a query that is no plain selection, from the values of its parameters. -/
  answer : Query → List Datum → List Datum

namespace Database

variable (D : Database)

/-- A value as a condition. -/
def truth : Datum → Truth
  | .null => none
  | .truth b => some b
  | .value v => D.holds v

@[simp] theorem truth_ofTruth (a : Truth) : D.truth (.ofTruth a) = a := by
  cases a <;> rfl

/-- Nothing is known of a comparison with null. -/
def compare (op : BinOp) (a b : Datum) : Truth :=
  if a = .null ∨ b = .null then none
  else match op with
    | .eq => some (a == b)
    | .ne => some (a != b)
    | .lt => some (D.before a b)
    | .gt => some (D.before b a)
    | .le => some (D.before a b || a == b)
    | .ge => some (D.before b a || a == b)
    | _ => none

theorem compare_eq_true {a b : Datum} : D.compare .eq a b = some true ↔ a ≠ .null ∧ a = b := by
  unfold compare
  split
  · next h =>
    constructor
    · intro h
      cases h
    · rintro ⟨ha, rfl⟩
      exact absurd h (by simp [ha])
  · next h => simp_all

/-- Whether a value equals one of a list. -/
def member (a : Datum) (values : List Datum) : Truth := Truth.any (values.map (D.compare .eq a))

theorem member_eq_true {a : Datum} {values : List Datum} :
    D.member a values = some true ↔ a ≠ .null ∧ a ∈ values := by
  rw [member, Truth.any_eq_true, List.mem_map]
  constructor
  · rintro ⟨b, hb, h⟩
    obtain ⟨ha, rfl⟩ := D.compare_eq_true.1 h
    exact ⟨ha, hb⟩
  · rintro ⟨ha, hmem⟩
    exact ⟨a, hmem, D.compare_eq_true.2 ⟨ha, rfl⟩⟩

def range (a low high : Datum) : Truth := (D.compare .ge a low).and (D.compare .le a high)

/-- In the order of the store, or the same. -/
def AtMost (a b : Datum) : Prop := D.before a b ∨ a = b

/-- How two values stand to each other. -/
def Relates : BinOp → Datum → Datum → Prop
  | .eq, a, b => a = b
  | .ne, a, b => a ≠ b
  | .lt, a, b => D.before a b
  | .gt, a, b => D.before b a
  | .le, a, b => D.AtMost a b
  | .ge, a, b => D.AtMost b a
  | _, _, _ => False

section Values

variable {D} {cell : Datum} {v : SqlValue} {vs : List SqlValue}

/-- A comparison with a value is true of the cells that are not null and stand so to it. -/
theorem compare_value {op : BinOp} :
    D.compare op cell (.value v) = some true ↔ cell ≠ .null ∧ D.Relates op cell (.value v) := by
  by_cases hnull : cell = .null
  · simp [compare, hnull]
  · cases op with
    | ge => simp [compare, Relates, AtMost, hnull, eq_comm (a := cell)]
    | _ => simp [compare, Relates, AtMost, hnull]

theorem compare_value_eq_false :
    D.compare .eq cell (.value v) = some false ↔ cell ≠ .null ∧ cell ≠ .value v := by
  by_cases hnull : cell = .null <;> simp [compare, hnull]

theorem member_values :
    D.member cell (vs.map .value) = some true ↔ cell ≠ .null ∧ ∃ v ∈ vs, cell = .value v := by
  rw [member_eq_true]
  simp [eq_comm]

/-- A cell is known to be none of no values, whatever it is; of others only if it is not null. -/
theorem not_member_values :
    (D.member cell (vs.map .value)).not = some true ↔
      vs = [] ∨ cell ≠ .null ∧ ∀ v ∈ vs, cell ≠ .value v := by
  rw [Truth.not_eq_true, member, Truth.any_eq_false]
  simp only [List.map_map, List.forall_mem_map, Function.comp_apply, compare_value_eq_false]
  cases vs with
  | nil => simp
  | cons v vs =>
    constructor
    · intro h
      exact .inr ⟨(h v List.mem_cons_self).1, fun w hw => (h w hw).2⟩
    · rintro (h | ⟨hnull, h⟩)
      · cases h
      · exact fun w hw => ⟨hnull, h w hw⟩

theorem range_values {low high : SqlValue} :
    D.range cell (.value low) (.value high) = some true ↔
      cell ≠ .null ∧ D.AtMost (.value low) cell ∧ D.AtMost cell (.value high) := by
  rw [range, Truth.and_eq_true, compare_value, compare_value]
  exact and_and_left.symm

end Values

end Database

section Evaluation

variable (D : Database) (read : Nat → Datum)

mutual

/-- The value of an expression on a row, where parameter `i` has the value `read i`. -/
def Expr.eval : Expr → Row → Datum
  | .column table name, row => row table name
  | .literal (.int n), _ => .value (.int n)
  | .literal (.float x), _ => D.number x
  | .literal .null, _ => .null
  | .param index, _ => read index
  | .binary .and left right, row =>
      .ofTruth ((D.truth (left.eval row)).and (D.truth (right.eval row)))
  | .binary .or left right, row =>
      .ofTruth ((D.truth (left.eval row)).or (D.truth (right.eval row)))
  | .binary op left right, row =>
    if op.precedence = 4 then .ofTruth (D.compare op (left.eval row) (right.eval row))
    else D.arithmetic op (left.eval row) (right.eval row)
  | .not e, row => .ofTruth (D.truth (e.eval row)).not
  | .call name distinct args, row => D.call name distinct (Expr.evalList args row)
  | .case branches otherwise, row =>
    (Expr.evalBranches branches row).getD
      (match otherwise with
      | some e => e.eval row
      | none => .null)
  | .inList e values negated, row =>
    .ofTruth ((D.member (e.eval row) (Expr.evalList values row)).negateIf negated)
  | .inQuery e query negated, row =>
      .ofTruth ((D.member (e.eval row) (query.eval row)).negateIf negated)
  | .between e low high negated, row =>
    .ofTruth ((D.range (e.eval row) (low.eval row) (high.eval row)).negateIf negated)
  | .isNull e negated, row => .truth ((e.eval row == .null) != negated)
  | .like e pattern escape anyCase, row =>
      .ofTruth (D.resembles (e.eval row) (pattern.eval row) escape anyCase)
  | .paren e, row => e.eval row
  | .bucket e b, row => D.bucket b (e.eval row)
  | .timestamp e, row => D.time (e.eval row)

def Expr.evalList : List Expr → Row → List Datum
  | [], _ => []
  | e :: es, row => e.eval row :: Expr.evalList es row

/-- The result of the first branch whose condition is true. -/
def Expr.evalBranches : List (Expr × Expr) → Row → Option Datum
  | [], _ => none
  | (condition, result) :: rest, row =>
    if D.truth (condition.eval row) = some true then some (result.eval row) else
      Expr.evalBranches rest row

/-- The answer to a subquery, as a list of its first output. -/
def Query.eval : Query → Row → List Datum
  | ⟨[⟨e, _⟩], some table, [], some condition, [], [], none⟩, row =>
    ((D.rows table).filter fun cells =>
      D.truth (condition.eval (row.enter table cells)) = some true).map
      fun cells => e.eval (row.enter table cells)
  | q, _ => D.answer q (q.params.map read)

end

@[simp] theorem Expr.evalList_eq (es : List Expr) (row : Row) :
    Expr.evalList D read es row = es.map fun e => e.eval D read row := by
  induction es with
  | nil => rfl
  | cons e es ih => rw [Expr.evalList, ih, List.map_cons]

namespace Expr

variable {D} {read} {a b c : Expr} {row : Row}

theorem truth_and : D.truth ((a.and b).eval D read row) =
    (D.truth (a.eval D read row)).and (D.truth (b.eval D read row)) := D.truth_ofTruth _

theorem truth_or : D.truth ((a.or b).eval D read row) =
    (D.truth (a.eval D read row)).or (D.truth (b.eval D read row)) := D.truth_ofTruth _

theorem truth_compare {op : BinOp} (hop : op.precedence = 4) :
    D.truth ((binary op a b).eval D read row) =
    D.compare op (a.eval D read row) (b.eval D read row) := by
  cases op with
  | eq | ne | lt | gt | le | ge => exact D.truth_ofTruth _
  | _ => cases hop

theorem truth_inList {values : List Expr} {negated : Bool} :
    D.truth ((inList a values negated).eval D read row) =
    (D.member (a.eval D read row) (values.map fun v => v.eval D read row)).negateIf negated := by
  rw [← evalList_eq]
  exact D.truth_ofTruth _

theorem truth_inQuery {query : Query} {negated : Bool} :
    D.truth ((inQuery a query negated).eval D read row) =
    (D.member (a.eval D read row) (query.eval D read row)).negateIf negated := D.truth_ofTruth _

theorem truth_between {negated : Bool} : D.truth ((between a b c negated).eval D read row) =
    (D.range (a.eval D read row) (b.eval D read row) (c.eval D read row)).negateIf negated :=
  D.truth_ofTruth _

theorem eval_isNull {negated : Bool} :
    (isNull a negated).eval D read row = .truth ((a.eval D read row == .null) != negated) := rfl

theorem eval_timestamp : (timestamp a).eval D read row = D.time (a.eval D read row) := rfl

theorem eval_ifThen : (ifThen a b c).eval D read row =
    if D.truth (a.eval D read row) = some true then b.eval D read row else c.eval D read row := by
  have hcase : (ifThen a b c).eval D read row =
      (if D.truth (a.eval D read row) = some true then some (b.eval D read row) else none).getD
        (c.eval D read row) := rfl
  rw [hcase]
  split <;> rfl

end Expr

variable {read} {read' : Nat → Datum}

theorem Expr.evalBranches_congr {branches : List (Expr × Expr)} (row : Row)
    (h : ∀ b ∈ branches,
      b.1.eval D read row = b.1.eval D read' row ∧ b.2.eval D read row = b.2.eval D read' row) :
    Expr.evalBranches D read branches row = Expr.evalBranches D read' branches row := by
  induction branches with
  | nil => rfl
  | cons b rest ih =>
    obtain ⟨hc, hr⟩ := h b List.mem_cons_self
    rw [Expr.evalBranches, Expr.evalBranches, hc, hr, ih fun x hx =>
      h x (List.mem_cons_of_mem _ hx)]

theorem Query.eval_congr {q : Query}
    (h : ∀ x ∈ q.exprs, ∀ row, x.eval D read row = x.eval D read' row)
    (hread : ∀ i ∈ q.params, read i = read' i) (row : Row) :
    q.eval D read row = q.eval D read' row := by
  unfold Query.eval
  split
  · next e label table condition =>
    have hc := h condition (by simp [Query.exprs])
    have he := h e (by simp [Query.exprs])
    simp only [hc, he]
  · rw [List.map_congr_left hread]

/-- Only the values of the parameters in an expression matter to it. -/
theorem Expr.eval_congr {e : Expr} (hread : ∀ i ∈ e.params, read i = read' i) (row : Row) :
    e.eval D read row = e.eval D read' row := by
  induction e using Expr.parts_induct generalizing row with
  | step e ih =>
    have part {x : Expr} (hx : x ∈ e.parts) (row : Row) :
        x.eval D read row = x.eval D read' row := by
      refine ih x hx (fun i hi => hread i ?_) row
      rw [params_eq]
      exact List.mem_append_right _ (List.mem_flatMap.2 ⟨x, hx, hi⟩)
    cases e with
    | column => rfl
    | literal l => cases l <;> rfl
    | param index => exact hread index (by simp)
    | binary op left right =>
      have hl := part (x := left) (by simp [parts]) row
      have hr := part (x := right) (by simp [parts]) row
      cases op <;> simp only [Expr.eval, hl, hr]
    | not e | paren e | bucket e b | timestamp e | isNull e negated =>
      have he := part (x := e) (by simp [parts]) row
      simp only [Expr.eval, he]
    | call name distinct args =>
      have hargs : args.map (fun a => a.eval D read row) = args.map fun a => a.eval D read' row :=
        List.map_congr_left fun a ha => part (x := a) ha row
      simp only [Expr.eval, Expr.evalList_eq, hargs]
    | case branches otherwise =>
      have hb := Expr.evalBranches_congr D row fun (b : Expr × Expr) (hb : b ∈ branches) =>
        have hmem (x : Expr) (hx : x = b.1 ∨ x = b.2) : x ∈ (Expr.case branches otherwise).parts :=
          List.mem_append_left _ (List.mem_flatMap.2 ⟨b, hb, by simpa using hx⟩)
        ⟨part (hmem b.1 (.inl rfl)) row, part (hmem b.2 (.inr rfl)) row⟩
      cases otherwise with
      | none => simp only [Expr.eval, hb]
      | some e =>
        have he := part (x := e) (by simp [parts]) row
        simp only [Expr.eval, hb, he]
    | inList e values negated =>
      have he := part (x := e) (by simp [parts]) row
      have hv := List.map_congr_left fun v hv => part (x := v) (List.mem_cons_of_mem _ hv) row
      simp only [Expr.eval, Expr.evalList_eq, he, hv]
    | inQuery e query negated =>
      have he := part (x := e) (by simp [parts]) row
      have hq : query.eval D read row = query.eval D read' row :=
        Query.eval_congr D (fun x hx => part (List.mem_cons_of_mem _ hx))
          (fun i hi => hread i (by simp [hi])) row
      simp only [Expr.eval, he, hq]
    | between e low high negated =>
      have he := part (x := e) (by simp [parts]) row
      have hl := part (x := low) (by simp [parts]) row
      have hh := part (x := high) (by simp [parts]) row
      simp only [Expr.eval, he, hl, hh]
    | like e pattern escape anyCase =>
      have he := part (x := e) (by simp [parts]) row
      have hp := part (x := pattern) (by simp [parts]) row
      simp only [Expr.eval, he, hp]

end Evaluation

end IncidentBoard.Sql
