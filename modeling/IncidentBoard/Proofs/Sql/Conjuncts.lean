import IncidentBoard.Proofs.Sql.Clause
import IncidentBoard.Proofs.Sql.Nesting

/-! The text of a conjunction, and the pieces between its `AND`s. -/
namespace IncidentBoard.Sql

def Expr.isOr : Expr → Bool
  | .binary .or _ _ => true
  | _ => false

/-- What stands between two conditions. -/
def andWords : List Token := [.space, .keyword .and, .space]

/-- A condition as a piece of a conjunction. -/
def conjunct (d : Dialect) (e : Expr) : List Token :=
  if e.isOr then parens (e.tokens d) else e.tokens d

/-- The pieces of a condition between those `AND`s that nothing is open around. -/
def conjuncts (ts : List Token) : List (List Token) :=
  ((levels [] ts).splitOnP fun x => x.1.isAnd && x.2.isEmpty).map fun piece =>
    strip (piece.map Prod.fst)

section Text

variable {d : Dialect} {e : Expr}

theorem precedence_lt_two_iff : e.precedence < 2 ↔ e.isOr := by
  cases e with
  | binary op => cases op <;> simp [Expr.precedence, BinOp.precedence, Expr.isOr]
  | _ => simp [Expr.precedence, Expr.isOr]

theorem operand_eq_conjunct : operand e (e.tokens d) 2 = conjunct d e := by
  simp only [operand, conjunct, precedence_lt_two_iff]

theorem tokens_and (a b : Expr) :
    (a.and b).tokens d = conjunct d a ++ andWords ++ conjunct d b := by
  rw [← operand_eq_conjunct, ← operand_eq_conjunct]
  simp [andWords, Expr.and, Expr.tokens, infixed, BinOp.leftPlace, BinOp.rightPlace,
    BinOp.associative, BinOp.precedence, BinOp.token]

/-- However deep a conjunction is nested to the left, its text is flat. -/
theorem tokens_foldl_and (a b : Expr) (es : List Expr) : (es.foldl Expr.and (a.and b)).tokens d =
    conjunct d a ++ ((b :: es).map (conjunct d)).flatMap fun ts => andWords ++ ts := by
  induction es generalizing a b with
  | nil => simp [tokens_and]
  | cons x es ih =>
    have hand : conjunct d (a.and b) = (a.and b).tokens d := rfl
    rw [List.foldl_cons, ih, hand, tokens_and]
    simp

theorem strip_conjunct (e : Expr) : strip (conjunct d e) = conjunct d e := by
  unfold conjunct
  split
  · exact (tight_parens _).strip_eq
  · exact (Expr.tight_tokens d e).strip_eq

end Text

section Cut

theorem isCut_eq_false {ts : List Token} (h : Solid ts) :
    ∀ x ∈ levels [] ts, (x.1.isAnd && x.2.isEmpty) = false := by
  intro x hx
  rw [Bool.and_eq_false_imp]
  intro hand
  exact Bool.eq_false_iff.2 fun hempty => ((h []).2 x hx).2 hand (List.isEmpty_iff.1 hempty)

theorem conjuncts_of_solid {ts : List Token} (h : Solid ts) : conjuncts ts = [strip ts] := by
  rw [conjuncts, List.splitOnP_eq_singleton (isCut_eq_false h), List.map_singleton, map_fst_levels]

/-- Texts without an `AND` to cut at are the pieces of their conjunction. -/
theorem conjuncts_append_flatMap {a : List Token} (ha : Solid a) {bs : List (List Token)}
    (hb : ∀ b ∈ bs, Solid b) :
    conjuncts (a ++ bs.flatMap fun b => andWords ++ b) = strip a :: bs.map strip := by
  induction bs generalizing a with
  | nil =>
    rw [List.flatMap_nil, List.append_nil, conjuncts_of_solid ha, List.map_nil]
  | cons b bs ih =>
    obtain ⟨hb, hbs⟩ := List.forall_mem_cons.1 hb
    have hspace : Solid (a ++ [Token.space]) := ha.append (Solid.plain rfl)
    have hsplit : a ++ (b :: bs).flatMap (fun b => andWords ++ b) = (a ++ [Token.space]) ++
        Token.keyword .and :: ((Token.space :: b) ++ bs.flatMap fun b => andWords ++ b) := by
      simp [andWords]
    have hrest := ih (Solid.cons (t := .space) rfl hb) hbs
    rw [hsplit, conjuncts, levels_append, (hspace []).1, levels,
      List.splitOnP_append_cons_of_forall_mem (isCut_eq_false hspace) _ rfl, List.map_cons,
      map_fst_levels, strip_append_space, List.map_cons, ← strip_cons_space b, ← hrest]
    rfl

end Cut

end IncidentBoard.Sql
