import IncidentBoard.Sql.Printer

/-! The expressions inside an expression, with the induction over them, the printer in terms of
maps, and inductions over texts that are put together from parts. -/
namespace IncidentBoard.Sql

/-- The expressions of a query in the order of its text. -/
def Query.exprs (q : Query) : List Expr :=
  q.select.map (·.expr) ++ q.joins.map (·.on) ++ q.filter.toList ++ q.groupBy ++
    q.orderBy.map (·.expr)

namespace Expr

/-- The operands of an expression, and the expressions of its subquery, in the order of the text. -/
def parts : Expr → List Expr
  | .column .. | .literal _ | .param _ => []
  | .binary _ left right => [left, right]
  | .not e | .paren e | .bucket e _ | .timestamp e | .isNull e _ => [e]
  | .call _ _ args => args
  | .case branches otherwise => branches.flatMap (fun b => [b.1, b.2]) ++ otherwise.toList
  | .inList e values _ => e :: values
  | .inQuery e query _ => e :: query.exprs
  | .between e low high _ => [e, low, high]
  | .like e pattern _ _ => [e, pattern]

private theorem sizeOf_lt_of_mem_exprs {q : Query} {x : Expr} (h : x ∈ q.exprs) :
    sizeOf x < sizeOf q := by
  obtain ⟨select, source, joins, filter, groupBy, orderBy, limit⟩ := q
  simp only [Query.exprs, List.mem_append, List.mem_map, Option.mem_toList] at h
  rcases h with (((⟨i, hi, rfl⟩ | ⟨j, hj, rfl⟩) | hf) | hg) | ⟨k, hk, rfl⟩
  · have := List.sizeOf_lt_of_mem hi
    obtain ⟨e, a⟩ := i
    simp_all only [Item.mk.sizeOf_spec, Query.mk.sizeOf_spec]
    omega
  · have := List.sizeOf_lt_of_mem hj
    obtain ⟨t, e⟩ := j
    simp_all only [Join.mk.sizeOf_spec, Query.mk.sizeOf_spec]
    omega
  · subst hf
    simp only [Query.mk.sizeOf_spec, Option.some.sizeOf_spec]
    omega
  · have := List.sizeOf_lt_of_mem hg
    simp only [Query.mk.sizeOf_spec]
    omega
  · have := List.sizeOf_lt_of_mem hk
    obtain ⟨e, a⟩ := k
    simp_all only [SortKey.mk.sizeOf_spec, Query.mk.sizeOf_spec]
    omega

theorem sizeOf_lt_of_mem_parts {e x : Expr} (h : x ∈ e.parts) : sizeOf x < sizeOf e := by
  cases e with
  | column | literal | param => simp [parts] at h
  | binary | not | paren | bucket | timestamp | isNull | between | like =>
    simp only [parts, List.mem_cons, List.not_mem_nil, or_false] at h
    rcases h with rfl | rfl | rfl <;> simp <;> omega
  | call name distinct args =>
    have : sizeOf x < sizeOf args := List.sizeOf_lt_of_mem h
    simp only [call.sizeOf_spec]
    omega
  | case branches otherwise =>
    simp only [parts, List.mem_append, List.mem_flatMap, Option.mem_toList] at h
    rcases h with ⟨⟨a, b⟩, hb, hx⟩ | ho
    · have := List.sizeOf_lt_of_mem hb
      simp only [List.mem_cons, List.not_mem_nil, or_false] at hx
      simp only [Prod.mk.sizeOf_spec] at this
      rcases hx with rfl | rfl <;> simp only [case.sizeOf_spec] <;> omega
    · subst ho
      simp only [case.sizeOf_spec, Option.some.sizeOf_spec]
      omega
  | inList e values negated =>
    rcases List.mem_cons.1 h with rfl | h
    · simp only [inList.sizeOf_spec]
      omega
    · have := List.sizeOf_lt_of_mem h
      simp only [inList.sizeOf_spec]
      omega
  | inQuery e query negated =>
    rcases List.mem_cons.1 h with rfl | h
    · simp only [inQuery.sizeOf_spec]
      omega
    · have := sizeOf_lt_of_mem_exprs h
      simp only [inQuery.sizeOf_spec]
      omega

/-- Induction over expressions, with a hypothesis for every part. -/
@[elab_as_elim]
theorem parts_induct {motive : Expr → Prop} (step : ∀ e, (∀ x ∈ e.parts, motive x) → motive e)
    (e : Expr) :
    motive e := by
  induction h : sizeOf e using Nat.strongRecOn generalizing e with
  | ind n ih =>
    subst h
    exact step e fun x hx => ih _ (sizeOf_lt_of_mem_parts hx) x rfl

/-- The expression itself and all expressions in it, in the order of the text. -/
def nodes (e : Expr) : List Expr :=
  e :: e.parts.attach.flatMap fun ⟨x, _⟩ => x.nodes
termination_by sizeOf e
decreasing_by exact sizeOf_lt_of_mem_parts ‹_›

theorem nodes_eq (e : Expr) : e.nodes = e :: e.parts.flatMap nodes := by
  rw [nodes, List.flatMap_subtype (fun _ _ => rfl), List.unattach_attach]

/-- Something holds of an expression and of all expressions in it. -/
def All (Q : Expr → Prop) (e : Expr) : Prop := ∀ n ∈ e.nodes, Q n

section All

variable {Q : Expr → Prop} {e : Expr}

theorem all_iff : e.All Q ↔ Q e ∧ ∀ x ∈ e.parts, x.All Q := by
  unfold All
  rw [nodes_eq, List.forall_mem_cons]
  simp only [List.mem_flatMap, forall_exists_index, and_imp]
  exact and_congr_right fun _ => ⟨fun h x hx n hn => h n x hx hn, fun h n x hx hn => h x hx n hn⟩

theorem All.self (h : e.All Q) : Q e := (all_iff.1 h).1

theorem All.part (h : e.All Q) {x : Expr} (hx : x ∈ e.parts) : x.All Q := (all_iff.1 h).2 x hx

@[simp] theorem all_column {table : Option String} {name : String} :
    (column table name).All Q ↔ Q (.column table name) := by
  rw [all_iff]
  simp [parts]

@[simp] theorem all_literal {l : Literal} : (literal l).All Q ↔ Q (.literal l) := by
  rw [all_iff]
  simp [parts]

@[simp] theorem all_param {index : Nat} : (param index).All Q ↔ Q (.param index) := by
  rw [all_iff]
  simp [parts]

@[simp] theorem all_binary {op : BinOp} {left right : Expr} :
    (binary op left right).All Q ↔ Q (.binary op left right) ∧ left.All Q ∧ right.All Q := by
  rw [all_iff]
  simp [parts]

@[simp] theorem all_not : (Expr.not e).All Q ↔ Q (.not e) ∧ e.All Q := by
  rw [all_iff]
  simp [parts]

@[simp] theorem all_paren : (paren e).All Q ↔ Q (.paren e) ∧ e.All Q := by
  rw [all_iff]
  simp [parts]

@[simp] theorem all_call {name : String} {distinct : Bool} {args : List Expr} :
    (call name distinct args).All Q ↔ Q (.call name distinct args) ∧ ∀ a ∈ args, a.All Q := all_iff

@[simp] theorem all_case {branches : List (Expr × Expr)} {otherwise : Option Expr} :
    (case branches otherwise).All Q ↔ Q (.case branches otherwise) ∧
      (∀ b ∈ branches, b.1.All Q ∧ b.2.All Q) ∧ ∀ e ∈ otherwise, e.All Q := by
  rw [all_iff]
  refine and_congr_right fun _ => ?_
  simp only [parts, List.forall_mem_append, List.mem_flatMap, List.mem_cons,
    List.not_mem_nil, or_false, Option.mem_toList]
  refine and_congr_left fun _ => ⟨fun h b hb => ⟨h _ ⟨b, hb, .inl rfl⟩, h _ ⟨b, hb, .inr rfl⟩⟩, ?_⟩
  rintro h x ⟨b, hb, rfl | rfl⟩
  · exact (h b hb).1
  · exact (h b hb).2

@[simp] theorem all_inList {values : List Expr} {negated : Bool} :
    (inList e values negated).All Q ↔ Q (.inList e values negated) ∧ e.All Q ∧
      ∀ v ∈ values, v.All Q := by
  rw [all_iff]
  simp [parts]

@[simp] theorem all_inQuery {query : Query} {negated : Bool} :
    (inQuery e query negated).All Q ↔ Q (.inQuery e query negated) ∧ e.All Q ∧
      ∀ x ∈ query.exprs, x.All Q := by
  rw [all_iff]
  simp [parts]

@[simp] theorem all_between {low high : Expr} {negated : Bool} :
    (between e low high negated).All Q ↔ Q (.between e low high negated) ∧ e.All Q ∧ low.All Q ∧
      high.All Q := by
  rw [all_iff]
  simp [parts]

@[simp] theorem all_isNull {negated : Bool} :
    (isNull e negated).All Q ↔ Q (.isNull e negated) ∧ e.All Q := by
  rw [all_iff]
  simp [parts]

@[simp] theorem all_like {pattern : Expr} {escape : Char} {anyCase : Bool} :
    (like e pattern escape anyCase).All Q ↔ Q (.like e pattern escape anyCase) ∧ e.All Q ∧
      pattern.All Q := by
  rw [all_iff]
  simp [parts]

@[simp] theorem all_bucket {b : Bucket} : (bucket e b).All Q ↔ Q (.bucket e b) ∧ e.All Q := by
  rw [all_iff]
  simp [parts]

@[simp] theorem all_timestamp : (timestamp e).All Q ↔ Q (.timestamp e) ∧ e.All Q := by
  rw [all_iff]
  simp [parts]

end All

def isColumn : Expr → Bool
  | .column .. => true
  | _ => false

/-- Whether an expression is a stored value: a column, or the timestamp in one. -/
def isCell : Expr → Bool
  | .column .. | .timestamp (.column ..) => true
  | _ => false

/-- A dialect may write the operand of a bucket or a timestamp more than once, and an empty list
leaves its operand out. -/
def TakesCells : Expr → Prop
  | .bucket e _ | .timestamp e => e.isColumn
  | .inList e [] _ => e.isCell
  | _ => True

/-- Everything that is not written exactly once is a stored value. -/
def Regular (e : Expr) : Prop := e.All TakesCells

theorem exists_of_isColumn {e : Expr} (h : e.isColumn) : ∃ table name, e = .column table name := by
  cases e <;> simp_all [isColumn]

theorem exists_of_isCell {e : Expr} (h : e.isCell) :
    ∃ table name, e = .column table name ∨ e = .timestamp (.column table name) := by
  unfold isCell at h
  split at h
  · exact ⟨_, _, .inl rfl⟩
  · exact ⟨_, _, .inr rfl⟩
  · contradiction

end Expr

section Printer

/-- ` WHEN condition THEN result` -/
def whenThen (condition result : List Token) : List Token :=
  [.space, .keyword .when', .space] ++ condition ++ [.space, .keyword .then', .space] ++ result

def elseTokens : Option (List Token) → List Token
  | some e => [.space, .keyword .else', .space] ++ e
  | none => []

theorem caseTokens_eq (branches : List (List Token × List Token))
    (otherwise : Option (List Token)) :
    caseTokens branches otherwise = .keyword .case' ::
      (branches.flatMap (fun b => whenThen b.1 b.2) ++ elseTokens otherwise ++
        [.space, .keyword .end']) := by
  cases otherwise <;> rfl

variable (d : Dialect)

theorem Expr.case_tokens_eq (branches : List (Expr × Expr)) (otherwise : Option Expr) :
    (Expr.case branches otherwise).tokens d =
      caseTokens (Expr.branchTokens d branches) (otherwise.map (Expr.tokens d)) := by
  cases otherwise <;> rfl

@[simp] theorem Expr.listTokens_eq (es : List Expr) :
    Expr.listTokens d es = es.map (Expr.tokens d) := by
  induction es with
  | nil => rfl
  | cons e es ih => rw [Expr.listTokens, ih, List.map_cons]

@[simp] theorem Expr.branchTokens_eq (branches : List (Expr × Expr)) :
    Expr.branchTokens d branches = branches.map fun b => (b.1.tokens d, b.2.tokens d) := by
  induction branches with
  | nil => rfl
  | cons b rest ih => rw [Expr.branchTokens, ih, List.map_cons]

@[simp] theorem Query.itemTokens_eq (items : List (Item Expr)) :
    Query.itemTokens d items = items.map fun i => i.expr.tokens d ++ aliasTokens i.label := by
  induction items with
  | nil => rfl
  | cons i rest ih => rw [Query.itemTokens, ih, List.map_cons]

@[simp] theorem Query.keyTokens_eq (keys : List (SortKey Expr)) :
    Query.keyTokens d keys = keys.map fun k => k.expr.tokens d ++ Direction.tokens k.direction := by
  induction keys with
  | nil => rfl
  | cons k rest ih => rw [Query.keyTokens, ih, List.map_cons]

/-- `LEFT JOIN table ON` -/
def joinHead (table : String) : List Token :=
  [.keyword .left, .space, .keyword .join, .space, .ident table, .space, .keyword .on, .space]

@[simp] theorem Query.joinTokens_eq (joins : List (Join Expr)) :
    Query.joinTokens d joins = joins.map fun j => joinHead j.table ++ j.on.tokens d := by
  induction joins with
  | nil => rfl
  | cons j rest ih => rw [Query.joinTokens, ih, List.map_cons]; rfl

def sourceClause (multiline : Bool) : Option String → List Token
  | some table => clause multiline [.keyword .from', .space, .ident table]
  | none => []

def filterClause (multiline : Bool) : Option (List Token) → List Token
  | some ts => clause multiline (.keyword .where' :: .space :: ts)
  | none => []

theorem Query.tokens_eq (q : Query) (multiline : Bool) :
    q.tokens d multiline = selectTokens multiline (Query.itemTokens d q.select)
      ++ sourceClause multiline q.source
      ++ (Query.joinTokens d q.joins).flatMap (clause multiline)
      ++ filterClause multiline (q.filter.map (Expr.tokens d))
      ++ listClause multiline .groupBy (Expr.listTokens d q.groupBy)
      ++ listClause multiline .orderBy (Query.keyTokens d q.orderBy)
      ++ limitClause multiline q.limit := by
  obtain ⟨select, source, joins, filter, groupBy, orderBy, limit⟩ := q
  cases source <;> cases filter <;> rw [Query.tokens] <;> rfl

theorem Query.tokens_eq_body (q : Query) (multiline : Bool) : q.tokens d multiline =
    ({ q with limit := none } : Query).tokens d multiline ++ limitClause multiline q.limit := by
  rw [Query.tokens_eq, Query.tokens_eq]
  simp [limitClause]

end Printer

section Texts

variable {P : List Token → Prop}

/-- What holds of each part, and of texts that a separator joins, holds of the parts with separators
in between. -/
theorem intercalate_induction {separator : List Token} {parts : List (List Token)} (hnil : P [])
    (hjoin : ∀ a b, P a → P b → P (a ++ (separator ++ b))) (h : ∀ ts ∈ parts, P ts) :
    P (separator.intercalate parts) := by
  induction parts with
  | nil => simpa using hnil
  | cons a rest ih =>
    have ha := h a List.mem_cons_self
    have hrest := ih fun ts hts => h ts (List.mem_cons_of_mem _ hts)
    cases rest with
    | nil => simpa using ha
    | cons b rest =>
      rw [List.intercalate_cons_cons, List.append_assoc]
      exact hjoin a _ ha hrest

theorem flatMap_induction {α : Type} {l : List α} {f : α → List Token} (hnil : P [])
    (happend : ∀ a b, P a → P b → P (a ++ b)) (h : ∀ x ∈ l, P (f x)) : P (l.flatMap f) := by
  induction l with
  | nil => exact hnil
  | cons x l ih =>
    rw [List.flatMap_cons]
    exact happend _ _ (h x List.mem_cons_self) (ih fun y hy => h y (List.mem_cons_of_mem _ hy))

end Texts

end IncidentBoard.Sql
