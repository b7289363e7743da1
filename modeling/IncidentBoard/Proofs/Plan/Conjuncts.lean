import IncidentBoard.Proofs.Plan.Nodes
import IncidentBoard.Proofs.Plan.Text
import IncidentBoard.Proofs.Sql.Conjuncts

/-! No condition of a plan leaves its place in the text: the pieces of a condition are those of the
plan. -/
namespace IncidentBoard.Plan

open Sql Schema Access

/-- The keywords in outputs, joins and conditions. -/
def nodeKeywords : List Keyword :=
  [.case', .when', .then', .else', .end', .in', .not, .between, .and, .isNull, .isNotNull,
    .escape, .null]

section Conditions

variable {d : Dialect} {e : Expr}

theorem solid_tokens (h : IsCondition e ∨ IsRestriction e) : Solid (e.tokens d) := by
  have strong {x : Expr} (hx : x.Regular) (hp : x.precedence = 4) : Solid (x.tokens d) :=
    (Expr.solid_and_framed hx).1 (by omega)
  rcases h with h | h
  · exact strong h.regular h.precedence_eq
  · have hregular := h.regular
    obtain ⟨p, customers, cases, p', h⟩ := h
    rcases h.precedence_eq with hp | ⟨a, b, rfl, ha, hb⟩
    · exact strong hregular hp
    · obtain ⟨-, hla, hlb⟩ := Expr.all_binary.1 hregular
      have hsa : operand a (a.tokens d) 1 = a.tokens d := by simp [operand, ha]
      have hsb : operand b (b.tokens d) 1 = b.tokens d := by simp [operand, hb]
      have htokens : (a.or b).tokens d = infixed (a.tokens d) (.keyword .or) (b.tokens d) := by
        rw [← hsa, ← hsb]
        rfl
      rw [htokens]
      exact (strong hla ha).infixed rfl (strong hlb hb)

theorem solid_conjunct (h : IsCondition e ∨ IsRestriction e) : Solid (conjunct d e) := by
  unfold conjunct
  split
  · exact Solid.parens (solid_tokens h).framed
  · exact solid_tokens h

theorem keyword_mem_timeWords (d : Dialect) :
    ∀ t ∈ d.timeWords, ∀ k ∈ t.keyword?, k ∈ nodeKeywords := by
  cases d <;> decide

theorem Node.keyword_mem {n : Expr} (h : Node n) :
    ∀ t ∈ n.frame d, ∀ k ∈ t.keyword?, k ∈ nodeKeywords := by
  cases h with
  | @compare op hop a b =>
    cases op <;> simp [BinOp.compares, BinOp.precedence, Expr.frame, BinOp.token, Token.keyword?]
      at hop ⊢
  | list x values negated =>
    cases values <;> cases negated <;> simp [Expr.frame, negation, Token.keyword?, nodeKeywords]
  | null x negated => cases negated <;> simp [Expr.frame, Token.keyword?, nodeKeywords]
  | bucket | timestamp => exact keyword_mem_timeWords d
  | aggregate h =>
    cases h <;> simp [Expr.frame, Expr.apply, Expr.ifThen, Expr.int, Expr.null, Literal.token,
      BinOp.token, caseWords, Token.keyword?, nodeKeywords]
  | _ => simp [Expr.frame, Expr.qualified, columnTokens, negation, Token.keyword?, nodeKeywords]

theorem Node.ne_or {n : Expr} (h : Node n) : ∀ t ∈ n.frame d, t ≠ .keyword .or := by
  rintro t ht rfl
  exact absurd (h.keyword_mem _ ht .or rfl) (by decide)

theorem Node.not_isWhere {n : Expr} (h : Node n) : ∀ t ∈ n.frame d, ¬ t.isWhere := by
  intro t ht hwhere
  unfold Token.isWhere at hwhere
  split at hwhere
  · exact absurd (h.keyword_mem _ ht .where' rfl) (by decide)
  · contradiction

theorem linkedRows_ne_or (ids : List Expr) :
    ∀ t ∈ (Expr.inQuery rowColumn.expr (Scope.linkedRows ids) false).frame d, t ≠ .keyword .or := by
  simp [Expr.frame, Scope.linkedRows, Query.frame, Query.empty, breaks, aliasTokens, negation]

theorem forall_frame_ne_or (h : IsCondition e ∨ IsRestriction e) (hor : ¬ e.isOr) :
    e.All fun n => ∀ t ∈ n.frame d, t ≠ .keyword .or := by
  rcases h with h | ⟨p, customers, cases, p', h⟩
  · exact fun n hn => (h.all_node n hn).ne_or
  · refine h.all ?_ (fun table name _ => ?_) (fun i => ?_) (fun table name values _ => ?_)
      (fun _ => linkedRows_ne_or _) ?_
    · simp [Expr.never, Expr.eq, Expr.int, Expr.frame, BinOp.token, Literal.token]
    · simp [Expr.qualified, Expr.frame, columnTokens]
    · simp [Expr.frame]
    · exact (Node.list _ values false).ne_or
    · rintro a b rfl
      exact absurd rfl hor

/-- In a piece of a condition every `OR` is inside parentheses. -/
theorem paren_mem_of_or_conjunct (h : IsCondition e ∨ IsRestriction e) :
    ∀ x ∈ levels [] (conjunct d e), x.1 = .keyword .or → .paren ∈ x.2 := by
  intro x hx hor
  unfold conjunct at hx
  split at hx
  · obtain ⟨hopen, hlevels⟩ := (solid_tokens (d := d) h).framed [.paren] (by simp)
    rw [parens, levels, List.mem_cons] at hx
    rcases hx with rfl | hx
    · cases hor
    · have hx : x ∈ levels [.paren] (e.tokens d ++ [Token.symbol .rparen]) := hx
      rw [levels_append, hopen, List.mem_append] at hx
      rcases hx with hx | hx
      · exact (hlevels x hx).subset (by simp)
      · obtain rfl := List.mem_singleton.1 hx
        cases hor
  · next hnot =>
    have hne := Expr.forall_mem_tokens (V := fun t => t ≠ .keyword .or) (by simp [layout])
      (forall_frame_ne_or (d := d) h hnot)
    have hmem : x.1 ∈ e.tokens d := by
      rw [← map_fst_levels [] (e.tokens d)]
      exact List.mem_map_of_mem hx
    exact absurd hor (hne x.1 hmem)

end Conditions

section Clause

variable {d : Dialect}

theorem paren_mem_of_or_append {a : List Token} (ha : opened [] a = [])
    (hor : ∀ x ∈ levels [] a, x.1 = .keyword .or → .paren ∈ x.2) {es : List Expr}
    (hes : ∀ e ∈ es, IsCondition e ∨ IsRestriction e) :
    ∀ x ∈ levels [] (a ++ (es.map (conjunct d)).flatMap fun ts => andWords ++ ts),
      x.1 = .keyword .or → .paren ∈ x.2 := by
  -- `a` is the text so far: it closes what it opens, so each next piece starts outside of
  -- everything
  induction es generalizing a with
  | nil => simpa using hor
  | cons e es ih =>
    obtain ⟨he, hes⟩ := List.forall_mem_cons.1 hes
    have hopen : opened [] (a ++ (andWords ++ conjunct d e)) = [] := by
      rw [opened_append, ha, opened_append]
      exact (solid_conjunct he []).1
    rw [List.map_cons, List.flatMap_cons, ← List.append_assoc]
    refine ih hopen (fun x hx hxor => ?_) hes
    rw [levels_append, ha, levels_append, List.mem_append, List.mem_append] at hx
    rcases hx with hx | hx | hx
    · exact hor x hx hxor
    · simp only [andWords, levels, List.mem_cons, List.not_mem_nil, or_false] at hx
      rcases hx with rfl | rfl | rfl <;> cases hxor
    · exact paren_mem_of_or_conjunct he x hx hxor

/-- The condition of a plan is what stands behind the first `WHERE` of its text. -/
theorem QueryPlan.Sound.whereClause_tokens {p : QueryPlan} (h : p.Sound) (d : Dialect) :
    whereClause (p.tokens d) = (conjunction p.predicates).map (Expr.tokens d) := by
  refine Query.whereClause_tokens fun e he =>
    Expr.forall_mem_tokens (by simp [layout, Token.isWhere]) ?_
  have all {x : Expr} (hx : x.All Node) : x.All fun n => ∀ t ∈ n.frame d, ¬ t.isWhere :=
    fun n hn => (hx n hn).not_isWhere
  refine h.all_exprs_around (fun s hs => all hs.all_node) (fun j hj => all (all_node_on hj))
    (fun label _ => ?_) _ e he
  simp [Expr.col, Expr.frame, columnTokens, Token.isWhere]

end Clause

/-- No condition leaves its place. A plan without conditions has no `WHERE`; a single condition is
the whole clause and nothing cuts it; otherwise the clause, cut at every `AND` that stands outside
of parentheses, of `CASE` and of `BETWEEN`, gives the conditions of the plan in their order, in
parentheses if they are an `OR`, and no `OR` stands outside of parentheses. -/
theorem conjuncts_of_whereClause {definition : Widget.Definition} {w : Timeframe} {maxLimit : Nat}
    {p : QueryPlan} (h : compile definition w maxLimit = .ok p) (scopes : List Scope)
    (d : Dialect) :
    ((restrict scopes p).predicates = [] → whereClause ((restrict scopes p).tokens d) = none) ∧
    (∀ e, (restrict scopes p).predicates = [e] →
      whereClause ((restrict scopes p).tokens d) = some (e.tokens d) ∧
      conjuncts (e.tokens d) = [e.tokens d]) ∧
    (2 ≤ (restrict scopes p).predicates.length → ∃ clause,
      whereClause ((restrict scopes p).tokens d) = some clause ∧
      conjuncts clause = (restrict scopes p).predicates.map (conjunct d) ∧
      ∀ x ∈ levels [] clause, x.1 = .keyword .or → .paren ∈ x.2) := by
  have hsound := (sound_of_compile h).restrict scopes
  have hwhere := hsound.whereClause_tokens d
  have hconditions := hsound.predicates
  refine ⟨fun hnone => ?_, fun e hone => ?_, fun hlen => ?_⟩
  · rw [hwhere, hnone]
    rfl
  · have hsolid := solid_tokens (d := d) (hconditions e (by simp [hone]))
    rw [hwhere, hone, conjuncts_of_solid hsolid, (Expr.tight_tokens d e).strip_eq]
    exact ⟨rfl, rfl⟩
  · match hpredicates : (restrict scopes p).predicates with
    | [] | [_] => simp [hpredicates] at hlen
    | a :: b :: es =>
      rw [hpredicates] at hconditions
      obtain ⟨ha, hes⟩ := List.forall_mem_cons.1 hconditions
      refine ⟨(es.foldl Expr.and (a.and b)).tokens d, by rw [hwhere, hpredicates]; rfl, ?_⟩
      rw [tokens_foldl_and]
      refine ⟨?_, paren_mem_of_or_append (solid_conjunct ha []).1 (paren_mem_of_or_conjunct ha) hes⟩
      have hsolid := List.forall_mem_map.2 fun e he => solid_conjunct (d := d) (hes e he)
      rw [conjuncts_append_flatMap (solid_conjunct ha) hsolid, strip_conjunct, List.map_map,
        List.map_cons]
      congr 1
      exact List.map_congr_left (l := b :: es) fun e _ => strip_conjunct e

theorem conjuncts_of_whereClause_severeShare : ∃ p, compile severeShare sinceMarch 10000 = .ok p ∧
    ∀ d, ∃ clause, whereClause ((restrict [clientScope, .denyAll] p).tokens d) = some clause ∧
      conjuncts clause = (restrict [clientScope, .denyAll] p).predicates.map (conjunct d) ∧
      (conjuncts clause).length = 4 := by
  obtain ⟨p, h, -, hlen⟩ := exists_compile_severeShare
  refine ⟨p, h, fun d => ?_⟩
  obtain ⟨-, -, hmany⟩ := conjuncts_of_whereClause h [clientScope, .denyAll] d
  obtain ⟨clause, hclause, hcut, -⟩ := hmany (by omega)
  refine ⟨clause, hclause, hcut, ?_⟩
  rw [hcut, List.length_map, hlen]

end IncidentBoard.Plan
