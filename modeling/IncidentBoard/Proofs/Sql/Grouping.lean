import IncidentBoard.Proofs.Sql.Readback

/-! The parentheses of the printer keep every tree: by its own table the text is read as it was
built. -/
namespace IncidentBoard.Sql

theorem Strengths.orderly_printed : Strengths.printed.Orderly where
  op_lt op := by cases op <;> decide
  op_ne_not op := by cases op <;> decide
  test_ne_not := by decide
  op_unique op op' := by cases op <;> cases op' <;> decide
  test_ne_op op := by cases op <;> decide
  and_le_test := by decide

namespace Expr

variable {e : Expr}

/-- An expression binds as strongly as it holds together. -/
theorem precedence_le_strength (e : Expr) : e.precedence ≤ e.strength .printed := by
  cases e with
  | inList e values negated => cases values <;> cases negated <;> exact Nat.le_refl 4
  | _ => simp [precedence, strength, Strengths.printed, Reading.tightest]

/-- In its place an operand binds as strongly as the place asks for. -/
theorem le_shown {place : Nat} (h : place ≤ Reading.tightest) (e : Expr) :
    place ≤ e.shown .printed place := by
  unfold shown
  split
  · exact h
  · exact Nat.le_trans (by omega) e.precedence_le_strength

theorem fits_printed (e : Expr) : e.Fits .printed := by
  have five : ∀ x : Expr, 5 ≤ x.shown .printed 5 := le_shown (by decide)
  cases e with
  | binary op left right =>
    refine ⟨le_shown (by cases op <;> decide) left, ?_⟩
    have h := le_shown (by cases op <;> decide : op.rightPlace ≤ Reading.tightest) right
    unfold FitsRight
    split
    next ha => exact Nat.le_trans (Nat.le_of_eq (if_pos ha).symm) h
    next ha => exact Nat.lt_of_lt_of_le (Nat.lt_of_succ_le (Nat.le_of_eq (if_neg ha).symm)) h
  | not e => exact le_shown (by decide) e
  | inList e values negated =>
    cases values with
    | nil => trivial
    | cons => exact Nat.le_of_succ_le (five e)
  | isNull e negated => exact Nat.le_of_succ_le (five e)
  | between e low high negated => exact ⟨Nat.le_of_succ_le (five e), five low, five high⟩
  | like e pattern => exact ⟨Nat.le_of_succ_le (five e), five pattern⟩
  | _ => trivial

/-- Read by the printer's own table, the text of an expression is the tree it was printed from, up
to parentheses, the grouping of chains of `AND`, `OR` and `||`, and the comparison that stands for
an empty list. -/
theorem map_normal_read?_tokens (e : Expr) (he : e.All (·.isPlain)) (d : Dialect) :
    (Reading.read? .printed (e.tokens d)).map normal = some e.normal := by
  rw [Reading.read?_tokens Strengths.orderly_printed he fun n _ => n.fits_printed, Option.map_some,
    normal_reading]

/-- Chains that hang to the right, differences of differences, a negated test with an `AND` of its
own, an empty list and parentheses that nothing asks for. -/
def tangle : Expr :=
  .and (.or (col "a") (.paren (.or (col "b") (.inList (col "c") [] true))))
    (.not (.between (.binary .minus (col "d") (.binary .minus (col "e") (int 1)))
      (.binary .concat (col "f") (.binary .concat (col "g") (col "h")))
      (.paren (.and (col "i") (col "j"))) true))

theorem map_normal_read?_tokens_tangle : tangle.All (·.isPlain) ∧
    (Reading.read? .printed (tangle.tokens .sqlite)).map normal = some tangle.normal := by
  have plain : tangle.All (·.isPlain) := by
    simp [tangle, and, or, col, int, isPlain]
  exact ⟨plain, map_normal_read?_tokens tangle plain .sqlite⟩

end Expr

end IncidentBoard.Sql
