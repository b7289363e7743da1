import IncidentBoard.Proofs.Sql.Frame
import Mathlib.Data.List.DropRight

/-! The condition in the text of a query. -/
namespace IncidentBoard.Sql

def Token.isSpace : Token → Bool
  | .space => true
  | _ => false

def Token.isNewline : Token → Bool
  | .newline => true
  | _ => false

def Token.isWhere : Token → Bool
  | .keyword .where' => true
  | _ => false

/-- A text without the spaces around it. -/
def strip (ts : List Token) : List Token := (ts.dropWhile Token.isSpace).rdropWhile Token.isSpace

/-- The text between the first `WHERE` and the end of its line. -/
def whereClause (ts : List Token) : Option (List Token) :=
  match ts.dropWhile (!·.isWhere) with
  | [] => none
  | _ :: rest => some (strip (rest.takeWhile (!·.isNewline)))

section Strip

variable {a b ts : List Token}

theorem strip_cons_space (ts : List Token) : strip (.space :: ts) = strip ts := rfl

theorem strip_append_space (ts : List Token) : strip (ts ++ [.space]) = strip ts := by
  unfold strip
  rw [List.dropWhile_append]
  split
  · next h => rw [List.isEmpty_iff.1 h]; rfl
  · exact List.rdropWhile_concat_pos _ _ _ rfl

/-- Neither end is a space. -/
structure Tight (ts : List Token) : Prop where
  first : ∃ t ∈ ts.head?, ¬ t.isSpace
  last : ∃ t ∈ ts.getLast?, ¬ t.isSpace

theorem Tight.strip_eq (h : Tight ts) : strip ts = ts := by
  obtain ⟨t, ht, hfirst⟩ := h.first
  obtain ⟨l, hl, hlast⟩ := h.last
  have hdrop : ts.dropWhile Token.isSpace = ts := by
    cases ts with
    | nil => cases ht
    | cons a rest =>
      rw [List.head?_cons, Option.mem_some_iff] at ht
      rw [ht, List.dropWhile_cons_of_neg hfirst]
  rw [strip, hdrop, List.rdropWhile_eq_self_iff]
  intro hne
  rw [List.getLast?_eq_getLast_of_ne_nil hne, Option.mem_some_iff] at hl
  rwa [hl]

theorem Tight.around (ha : Tight a) (hb : Tight b) (ts : List Token) : Tight (a ++ ts ++ b) := by
  obtain ⟨t, ht, hfirst⟩ := ha.first
  obtain ⟨l, hl, hlast⟩ := hb.last
  refine ⟨⟨t, ?_, hfirst⟩, l, ?_, hlast⟩
  · rw [List.append_assoc, List.head?_append, Option.mem_def.1 ht]
    rfl
  · rw [List.getLast?_append, Option.mem_def.1 hl]
    rfl

theorem tight_singleton {t : Token} (h : ¬ t.isSpace) : Tight [t] := ⟨⟨t, rfl, h⟩, t, rfl, h⟩

theorem tight_enclosed {l r : Token} (hl : ¬ l.isSpace) (hr : ¬ r.isSpace) (ts : List Token) :
    Tight (l :: (ts ++ [r])) :=
  (tight_singleton hl).around (tight_singleton hr) ts

theorem tight_parens (ts : List Token) : Tight (parens ts) :=
  tight_enclosed (by simp [Token.isSpace]) (by simp [Token.isSpace]) ts

theorem tight_call (name : String) (args : List (List Token)) : Tight (call name args) :=
  (tight_singleton (t := .function name) (by simp [Token.isSpace])).around (tight_parens _) []

theorem Tight.infixed (ha : Tight a) (hb : Tight b) (op : Token) : Tight (infixed a op b) := by
  simpa [Sql.infixed] using ha.around hb [.space, op, .space]

theorem tight_caseTokens (branches : List (List Token × List Token))
    (otherwise : Option (List Token)) :
    Tight (caseTokens branches otherwise) := by
  rw [caseTokens_eq]
  have h := (tight_singleton (t := .keyword .case') (by simp [Token.isSpace])).around
    (tight_singleton (t := .keyword .end') (by simp [Token.isSpace]))
    (branches.flatMap (fun b => whenThen b.1 b.2) ++ elseTokens otherwise ++ [Token.space])
  simpa using h

theorem Tight.bucketTokens (d : Dialect) (b : Bucket) : Tight (d.bucketTokens ts b) := by
  have hmultiple (step : Int) (time : List Token) : Tight (Sqlite.minuteMultiple time step) :=
    ((tight_call _ _).infixed (tight_call _ _) _).infixed
      (tight_singleton (by simp [Token.isSpace])) _
  cases d with
  | sqlite =>
    cases b with
    | fiveMinutes | fifteenMinutes => exact hmultiple _ _
    | minute | hour | day | week | month | year => exact tight_call _ _
  | postgres => cases b <;> exact tight_call _ _

theorem Expr.tight_tokens (d : Dialect) (e : Expr) : Tight (e.tokens d) := by
  induction e using Expr.parts_induct with
  | step e ih =>
    have operand {x : Expr} (hx : x ∈ e.parts) (place : Nat) :
        Tight (operand x (x.tokens d) place) := by
      unfold Sql.operand
      split
      · exact tight_parens _
      · exact ih x hx
    cases e with
    | column table name =>
      cases table with
      | none => exact tight_singleton (by simp [Token.isSpace])
      | some table =>
        exact tight_enclosed (by simp [Token.isSpace]) (by simp [Token.isSpace]) [.symbol .dot]
    | literal l => cases l <;> exact tight_singleton (by simp [Literal.token, Token.isSpace])
    | param index => exact tight_singleton (by simp [Token.isSpace])
    | binary op left right =>
      exact (operand (by simp [parts]) _).infixed (operand (by simp [parts]) _) _
    | not x =>
      have hnot : Tight [.keyword .not] := tight_singleton (by simp [Token.isSpace])
      exact hnot.around (operand (by simp [parts]) 3) [.space]
    | call name distinct args =>
      exact (tight_singleton (t := .function name)
        (by simp [Token.isSpace])).around (tight_parens _) []
    | case branches otherwise =>
      rw [case_tokens_eq]
      exact tight_caseTokens _ _
    | inList x values negated =>
      cases values with
      | nil =>
        have hone : Tight [.int 1] := tight_singleton (by simp [Token.isSpace])
        exact hone.infixed hone _
      | cons v vs =>
        rw [tokens, List.append_assoc (Sql.operand _ _ _)]
        exact (operand (by simp [parts]) 5).around (tight_parens _) _
    | inQuery x query negated =>
      rw [tokens, List.append_assoc (Sql.operand _ _ _)]
      exact (operand (by simp [parts]) 5).around (tight_parens _) _
    | between x low high negated =>
      have hrange := (operand (x := low) (by simp [parts]) 5).infixed
        (operand (x := high) (by simp [parts]) 5) (.keyword .and)
      rw [tokens, List.append_assoc (Sql.operand _ _ _)]
      exact (operand (by simp [parts]) 5).around hrange _
    | isNull x negated =>
      have hnull : Tight [.keyword (if negated then .isNotNull else .isNull)] :=
        tight_singleton (by simp [Token.isSpace])
      simpa [tokens] using (operand (x := x) (by simp [parts]) 5).around hnull [.space]
    | like x pattern escape anyCase =>
      have hlike := (operand (x := x) (by simp [parts]) 5).infixed
        (operand (x := pattern) (by simp [parts]) 5)
        (if anyCase then .likeAnyCase else .keyword .like)
      have htext : Tight [.string (String.singleton escape)] :=
        tight_singleton (by simp [Token.isSpace])
      simpa [tokens] using hlike.around htext [.space, .keyword .escape, .space]
    | paren x => exact tight_parens _
    | bucket x b => exact Tight.bucketTokens d b
    | timestamp x =>
      cases d with
      | sqlite =>
        rw [tokens, Dialect.timestampTokens, Sqlite.timestamp]
        exact tight_caseTokens _ _
      | postgres => exact ih x (by simp [parts])

end Strip

section Where

variable {d : Dialect} {q : Query} {e : Expr}

/-- A query without a condition has no `WHERE`, unless one of its expressions has. -/
theorem Query.not_isWhere_tokens (h : q.filter = none)
    (he : ∀ e ∈ q.exprs, ∀ t ∈ e.tokens d, ¬ t.isWhere) :
    ∀ t ∈ q.tokens d true, ¬ t.isWhere := by
  have hlayout : ∀ t ∈ layout, ¬ t.isWhere := by simp [layout, Token.isWhere]
  have hbreaks : ∀ t ∈ breaks true, ¬ t.isWhere := by simp [breaks, Token.isWhere]
  have hkeyword (k : Keyword) (hk : k ≠ .where' ∨ q.filter.isSome) :
      ¬ (Token.keyword k).isWhere := by
    cases k <;> simp_all [Token.isWhere]
  refine Query.forall_mem_tokens hlayout ?_ he
  exact Query.forall_mem_frame hlayout hbreaks hkeyword
    (by simp [Token.isWhere]) (by simp [Token.isWhere])

theorem Query.not_isNewline_frame (q : Query) : ∀ t ∈ q.frame false, ¬ t.isNewline :=
  Query.forall_mem_frame (by simp [layout, Token.isNewline]) (by simp [breaks, Token.isNewline])
    (by simp [Token.isNewline]) (by simp [Token.isNewline]) (by simp [Token.isNewline])

theorem not_isNewline_timeWords (d : Dialect) : ∀ t ∈ d.timeWords, ¬ t.isNewline := by
  cases d <;> decide

theorem Expr.not_isNewline_frame (e : Expr) : ∀ t ∈ e.frame d, ¬ t.isNewline := by
  cases e with
  | column table name => cases table <;> simp [frame, columnTokens, Token.isNewline]
  | literal l => cases l <;> simp [frame, Literal.token, Token.isNewline]
  | binary op left right => cases op <;> simp [frame, BinOp.token, Token.isNewline]
  | call name distinct args => cases distinct <;> simp [frame, Token.isNewline]
  | inList x values negated =>
    cases values <;> cases negated <;> simp [frame, negation, Token.isNewline]
  | inQuery x query negated =>
    have hq := query.not_isNewline_frame
    cases negated <;> simpa [frame, negation, Token.isNewline] using hq
  | between x low high negated => cases negated <;> simp [frame, negation, Token.isNewline]
  | like x pattern escape anyCase => cases anyCase <;> simp [frame, Token.isNewline]
  | bucket x b | timestamp x => exact not_isNewline_timeWords d
  | param | not | case | isNull | paren => simp [frame, caseWords, Token.isNewline]

/-- An expression stands on one line. -/
theorem Expr.not_isNewline_tokens (e : Expr) : ∀ t ∈ e.tokens d, ¬ t.isNewline :=
  Expr.forall_mem_tokens (by simp [layout, Token.isNewline]) fun n _ => n.not_isNewline_frame

theorem whereClause_of_not_isWhere {ts : List Token} (h : ∀ t ∈ ts, ¬ t.isWhere) :
    whereClause ts = none := by
  have hdrop : ts.dropWhile (!·.isWhere) = [] := by
    rw [List.dropWhile_eq_nil_iff]
    simpa using h
  rw [whereClause, hdrop]

theorem whereClause_append {head condition tail : List Token} (hh : ∀ t ∈ head, ¬ t.isWhere)
    (hc : ∀ t ∈ condition, ¬ t.isNewline) (ht : tail.takeWhile (!·.isNewline) = []) :
    whereClause (head ++ .newline :: .keyword .where' :: .space :: condition ++ tail) =
      some (strip condition) := by
  have hdrop :
      (head ++ .newline :: .keyword .where' :: .space :: condition ++ tail).dropWhile
        (!·.isWhere) =
      .keyword .where' :: .space :: (condition ++ tail) := by
    rw [List.append_assoc, List.dropWhile_append_of_pos (by simpa using hh)]
    rfl
  have htake : (.space :: (condition ++ tail)).takeWhile (!·.isNewline) = .space :: condition := by
    rw [List.takeWhile_cons_of_pos rfl, List.takeWhile_append_of_pos (by simpa using hc), ht,
      List.append_nil]
  rw [whereClause, hdrop]
  simp only [htake, strip_cons_space]

/-- What a query writes behind its condition. -/
def Query.tail (d : Dialect) (q : Query) : List Token :=
  listClause true .groupBy (Expr.listTokens d q.groupBy)
    ++ listClause true .orderBy (Query.keyTokens d q.orderBy)
    ++ limitClause true q.limit

/-- Later clauses start on lines of their own. -/
theorem Query.takeWhile_tail (q : Query) : (q.tail d).takeWhile (!·.isNewline) = [] := by
  have starts {head : Keyword} (parts : List (List Token)) {rest : List Token}
      (h : rest.takeWhile (!·.isNewline) = []) :
      (listClause true head parts ++ rest).takeWhile (!·.isNewline) = [] := by
    cases parts with
    | nil => exact h
    | cons a parts => rfl
  rw [tail, List.append_assoc]
  refine starts _ (starts _ ?_)
  cases q.limit <;> rfl

/-- The query up to its condition. -/
def Query.head (q : Query) : Query :=
  { q with filter := none, groupBy := [], orderBy := [], limit := none }

theorem Query.exprs_head_subset : q.head.exprs ⊆ ({ q with filter := none } : Query).exprs := by
  intro e he
  simp only [head, exprs, List.mem_append, List.map_nil, List.not_mem_nil, or_false] at he ⊢
  tauto

theorem Query.tokens_eq_head (h : q.filter = some e) : q.tokens d true =
    q.head.tokens d true ++ .newline :: .keyword .where' :: .space :: e.tokens d ++ q.tail d := by
  rw [tokens_eq, tokens_eq d q.head, h]
  simp [head, tail, filterClause, clause, listClause, limitClause]

theorem Query.whereClause_tokens
    (h : ∀ e ∈ ({ q with filter := none } : Query).exprs, ∀ t ∈ e.tokens d, ¬ t.isWhere) :
    whereClause (q.tokens d true) = q.filter.map (Expr.tokens d) := by
  cases hf : q.filter with
  | none =>
    have hq : ({ q with filter := none } : Query) = q := by
      cases q
      simp_all
    rw [hq] at h
    exact whereClause_of_not_isWhere (q.not_isWhere_tokens hf h)
  | some e =>
    have hhead :=
      Query.not_isWhere_tokens (q := q.head) rfl fun x hx => h x (q.exprs_head_subset hx)
    rw [Query.tokens_eq_head hf, whereClause_append hhead e.not_isNewline_tokens q.takeWhile_tail,
      (Expr.tight_tokens d e).strip_eq, Option.map_some]

end Where

end IncidentBoard.Sql
