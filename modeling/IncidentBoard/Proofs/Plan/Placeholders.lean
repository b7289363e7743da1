import IncidentBoard.Proofs.Plan.Text

/-! The placeholders of a plan's text are the numbers of its bound values, in order. -/
namespace IncidentBoard.Plan

open Sql Widget Schema Access

theorem QueryPlan.Sound.placeholders_tokens {p : QueryPlan} (h : p.Sound) (d : Dialect) :
    placeholders (p.tokens d) = List.range' 1 p.params.length := by
  rw [QueryPlan.tokens, Query.placeholders_tokens_eq, ← h.params_toQuery baseTable]
  exact List.flatMap_congr fun e he => Expr.placeholders_tokens d (h.regular_exprs baseTable e he)

/-- From left to right, over outputs, conditions and the subqueries of scopes, the placeholders of a
text are those of its bound values, each once and in their order. -/
theorem placeholders_in_order {definition : Definition} {w : Timeframe} {maxLimit : Nat}
    {p : QueryPlan} (h : compile definition w maxLimit = .ok p) (scopes : List Scope)
    (d : Dialect) :
    placeholders ((restrict scopes p).tokens d) =
      List.range' 1 (restrict scopes p).params.values.length :=
  ((sound_of_compile h).restrict scopes).placeholders_tokens d

theorem placeholders_in_order_severeShare : ∃ p, compile severeShare sinceMarch 10000 = .ok p ∧
    ∀ d, placeholders ((restrict [clientScope, .denyAll] p).tokens d) = [1, 2, 3, 4, 5, 6,
      7, 8] := by
  obtain ⟨p, h, hlen, -⟩ := exists_compile_severeShare
  refine ⟨p, h, fun d => ?_⟩
  have hall := placeholders_in_order h [clientScope, .denyAll] d
  rw [hlen] at hall
  exact hall

end IncidentBoard.Plan
