import IncidentBoard.Decimal.Shortest
import IncidentBoard.Proofs.Sql.Evaluation
import Mathlib.Algebra.BigOperators.Group.List.Basic
import Mathlib.Algebra.Order.Field.Rat
import Mathlib.Tactic.NormNum

/-! What an aggregate says about a bag of rows: a number, null, or that it cannot be calculated. -/
namespace IncidentBoard.Sql

/-- Whole numbers calculate among themselves. -/
inductive Number
  | whole (n : Int)
  | real (q : Rat)
  deriving DecidableEq

/-- A number or null. -/
abbrev Amount := Option Number

/-- Why there is no answer, not even null. -/
inductive Fault
  | zeroDivisor
  | notNumber
  | unsupported
  deriving DecidableEq

namespace Number

def toRat : Number → Rat
  | whole n => n
  | real q => q

/-- The exact value of a double. -/
def ofFloat? (x : Float) : Option Number :=
  (Decimal.Binary.ofFloat? x).map fun b =>
    .real ((if b.negative then -1 else 1) * b.mantissa * 2 ^ b.exponent)

def times : Number → Number → Number
  | whole m, whole n => whole (m * n)
  | a, b => real (a.toRat * b.toRat)

/-- Between whole numbers only the whole part is kept. -/
def divide (a b : Number) : Except Fault Number :=
  if b.toRat = 0 then .error .zeroDivisor
  else match a, b with
    | whole m, whole n => .ok (whole (m.tdiv n))
    | a, b => .ok (real (a.toRat / b.toRat))

theorem divide_of_real {q : Rat} {b : Number} (h : b.toRat ≠ 0) :
    (real q).divide b = .ok (real (q / b.toRat)) := by
  cases b <;> simp [divide, h] <;> rfl

theorem ofFloat?_hundred : ofFloat? 100.0 = some (.real 100) := by
  have h : Decimal.Binary.ofFloat? 100.0 = some ⟨false, 7036874417766400, -46⟩ := rfl
  rw [ofFloat?, h]
  norm_num

end Number

namespace Amount

/-- Nothing comes of null. -/
def both (f : Number → Number → Except Fault Number) : Amount → Amount → Except Fault Amount
  | some a, some b => some <$> f a b
  | _, _ => .ok none

def nullIf : Amount → Amount → Amount
  | some a, some b => if a.toRat = b.toRat then none else some a
  | a, _ => a

/-- The first that is not null. -/
def coalesce (as : List Amount) : Amount := as.findSome? id

end Amount

namespace Datum

def whole : Datum → Except Fault Int
  | .value (.int n) => .ok n
  | _ => .error .notNumber

/-- Null is left out of a sum; a sum of nothing is null. -/
def sum (data : List Datum) : Except Fault Amount := do
  let ns ← (data.filter (· ≠ .null)).mapM whole
  return if ns.isEmpty then none else some (.whole ns.sum)

def count (data : List Datum) : Nat := data.countP (· ≠ .null)

variable {α : Type}

theorem sum_of_whole (f : α → Int) (xs : List α) :
    sum (xs.map fun x => .value (.int (f x))) =
      .ok (if xs.isEmpty then none else some (.whole (xs.map f).sum)) := by
  have hall : (xs.map fun x => Datum.value (.int (f x))).filter (· ≠ .null) =
      xs.map fun x => .value (.int (f x)) :=
    List.filter_eq_self.2 (by simp)
  have hnumbers : (xs.map fun x => Datum.value (.int (f x))).mapM whole = .ok (xs.map f) := by
    rw [List.mapM_map]
    exact List.mapM_pure
  simp only [sum, hall, hnumbers]
  cases xs <;> rfl

/-- Ones and zeros add up to the number of ones. -/
theorem sum_of_bool (p : α → Bool) (xs : List α) :
    sum (xs.map fun x => .value (.int (if p x then 1 else 0))) =
      .ok (if xs.isEmpty then none else some (.whole (xs.countP p))) := by
  have hones : (xs.map fun x => if p x then (1 : Int) else 0).sum = xs.countP p := by
    induction xs with
    | nil => rfl
    | cons x xs ih =>
      rw [List.map_cons, List.sum_cons, ih, List.countP_cons]
      split <;> omega
  rw [sum_of_whole, hones]

end Datum

section Aggregation

variable (D : Database) (read : Nat → Datum) (rows : List Row)

mutual

/-- The value of an expression over a bag of rows. What stands inside an aggregate is evaluated on
each. -/
def Expr.amount : Expr → Except Fault Amount
  | .literal (.int n) => .ok (some (.whole n))
  | .literal (.float x) => (Number.ofFloat? x).elim (.error .notNumber) (.ok ∘ some)
  | .literal .null => .ok none
  | .paren e => e.amount
  | .binary .times left right => do
    Amount.both (fun a b => .ok (a.times b)) (← left.amount) (← right.amount)
  | .binary .divide left right => do Amount.both Number.divide (← left.amount) (← right.amount)
  | .call "SUM" false [e] => Datum.sum (rows.map (e.eval D read))
  | .call "COUNT" false [e] => .ok (some (.whole (Datum.count (rows.map (e.eval D read)))))
  | .call "NULLIF" false [a, b] => return (← a.amount).nullIf (← b.amount)
  | .call "COALESCE" false args => return Amount.coalesce (← Expr.amounts args)
  | _ => .error .unsupported

def Expr.amounts : List Expr → Except Fault (List Amount)
  | [] => .ok []
  | e :: es => return (← e.amount) :: (← Expr.amounts es)

end

variable {D read rows} {e left right : Expr} {a b : Amount}

@[simp] theorem Expr.amount_int (n : Int) :
    (Expr.int n).amount D read rows = .ok (some (.whole n)) := rfl

theorem Expr.amount_float {x : Float} {n : Number} (h : Number.ofFloat? x = some n) :
    (Expr.literal (.float x)).amount D read rows = .ok (some n) := by
  have hamount : (Expr.literal (.float x)).amount D read rows =
      (Number.ofFloat? x).elim (.error .notNumber) (.ok ∘ some) := rfl
  rw [hamount, h]
  rfl

theorem Expr.amount_sum :
    (Expr.apply "SUM" [e]).amount D read rows = Datum.sum (rows.map (e.eval D read)) := rfl

theorem Expr.amount_count :
    (Expr.apply "COUNT" [e]).amount D read rows =
      .ok (some (.whole (Datum.count (rows.map (e.eval D read))))) := rfl

theorem Expr.amounts_cons {es : List Expr} {as : List Amount} (he : e.amount D read rows = .ok a)
    (hes : Expr.amounts D read rows es = .ok as) :
    Expr.amounts D read rows (e :: es) = .ok (a :: as) := by
  have hamounts : Expr.amounts D read rows (e :: es) = (do
      return (← e.amount D read rows) :: (← Expr.amounts D read rows es)) := rfl
  rw [hamounts, he, hes]
  rfl

section Known

variable (ha : left.amount D read rows = .ok a) (hb : right.amount D read rows = .ok b)
include ha hb

theorem Expr.amount_times :
    (Expr.binary .times left right).amount D read rows =
      Amount.both (fun a b => .ok (a.times b)) a b := by
  have hamount : (Expr.binary .times left right).amount D read rows = (do
      Amount.both (fun a b => .ok (a.times b)) (← left.amount D read rows)
        (← right.amount D read rows)) := rfl
  rw [hamount, ha, hb]
  rfl

theorem Expr.amount_divide :
    (Expr.binary .divide left right).amount D read rows = Amount.both Number.divide a b := by
  have hamount : (Expr.binary .divide left right).amount D read rows = (do
      Amount.both Number.divide (← left.amount D read rows) (← right.amount D read rows)) := rfl
  rw [hamount, ha, hb]
  rfl

theorem Expr.amount_nullIf :
    (Expr.apply "NULLIF" [left, right]).amount D read rows = .ok (a.nullIf b) := by
  have hamount : (Expr.apply "NULLIF" [left, right]).amount D read rows = (do
      return (← left.amount D read rows).nullIf (← right.amount D read rows)) := rfl
  rw [hamount, ha, hb]
  rfl

theorem Expr.amount_coalesce :
    (Expr.apply "COALESCE" [left, right]).amount D read rows = .ok (a.or b) := by
  have hamount : (Expr.apply "COALESCE" [left, right]).amount D read rows = (do
      return Amount.coalesce (← Expr.amounts D read rows [left, right])) := rfl
  rw [hamount, Expr.amounts_cons ha (Expr.amounts_cons hb rfl)]
  cases a <;> cases b <;> rfl

end Known

end Aggregation

end IncidentBoard.Sql
