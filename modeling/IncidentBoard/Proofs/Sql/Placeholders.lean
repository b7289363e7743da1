import IncidentBoard.Proofs.Sql.Nodes
import Mathlib.Data.List.Basic

/-! The parameters of an expression, and the placeholders in its text. -/
namespace IncidentBoard.Sql

def Token.placeholder? : Token → Option Nat
  | .param index => some index
  | _ => none

/-- The numbers of the placeholders in a text, from left to right. -/
def placeholders (ts : List Token) : List Nat := ts.filterMap Token.placeholder?

section Layout

@[simp] theorem placeholders_nil : placeholders [] = [] := rfl

@[simp] theorem placeholders_cons (t : Token) (ts : List Token) :
    placeholders (t :: ts) = t.placeholder?.toList ++ placeholders ts := by
  cases h : t.placeholder? <;> simp [placeholders, h]

@[simp] theorem placeholders_append (a b : List Token) :
    placeholders (a ++ b) = placeholders a ++ placeholders b := List.filterMap_append

@[simp] theorem placeholder?_keyword (k : Keyword) : (Token.keyword k).placeholder? = none := rfl

@[simp] theorem placeholder?_symbol (s : Symbol) : (Token.symbol s).placeholder? = none := rfl

@[simp] theorem placeholder?_space : Token.space.placeholder? = none := rfl

@[simp] theorem placeholder?_newline : Token.newline.placeholder? = none := rfl

@[simp] theorem placeholder?_indent (depth : Nat) : (Token.indent depth).placeholder? = none := rfl

@[simp] theorem placeholder?_ident (name : String) : (Token.ident name).placeholder? = none := rfl

@[simp] theorem placeholder?_int (n : Int) : (Token.int n).placeholder? = none := rfl

@[simp] theorem placeholder?_string (s : String) : (Token.string s).placeholder? = none := rfl

@[simp] theorem placeholder?_typed (type : LiteralType) (s : String) :
    (Token.typed type s).placeholder? = none := rfl

@[simp] theorem placeholder?_param (index : Nat) : (Token.param index).placeholder? = some index :=
  rfl

@[simp] theorem placeholder?_likeAnyCase : Token.likeAnyCase.placeholder? = none := rfl

@[simp] theorem placeholder?_function (name : String) : (Token.function name).placeholder? = none :=
  rfl

@[simp] theorem placeholder?_op (op : BinOp) : op.token.placeholder? = none := by cases op <;> rfl

@[simp] theorem placeholder?_literal (l : Literal) : l.token.placeholder? = none := by
  cases l <;> rfl

theorem placeholders_intercalate {separator : List Token} (hs : placeholders separator = [])
    (parts : List (List Token)) :
    placeholders (separator.intercalate parts) = parts.flatMap placeholders := by
  induction parts with
  | nil => simp
  | cons a rest ih =>
    cases rest with
    | nil => simp
    | cons b rest =>
      rw [List.intercalate_cons_cons, placeholders_append, placeholders_append, ih, hs]
      simp

@[simp] theorem placeholders_commaList (parts : List (List Token)) :
    placeholders (commaList parts) = parts.flatMap placeholders :=
  placeholders_intercalate (by simp) parts

@[simp] theorem placeholders_parens (ts : List Token) :
    placeholders (parens ts) = placeholders ts := by
  simp [parens]

@[simp] theorem placeholders_operand (e : Expr) (ts : List Token) (place : Nat) :
    placeholders (operand e ts place) = placeholders ts := by
  unfold operand
  split <;> simp

@[simp] theorem placeholders_infixed (a b : List Token) (op : Token) :
    placeholders (infixed a op b) = placeholders a ++ op.placeholder?.toList ++ placeholders b := by
  simp [infixed]

@[simp] theorem placeholders_negation (negated : Bool) : placeholders (negation negated) = [] := by
  cases negated <;> simp [negation]

@[simp] theorem placeholders_whenThen (condition result : List Token) :
    placeholders (whenThen condition result) = placeholders condition ++ placeholders result := by
  simp [whenThen]

@[simp] theorem placeholders_elseTokens (otherwise : Option (List Token)) :
    placeholders (elseTokens otherwise) = otherwise.toList.flatMap placeholders := by
  cases otherwise <;> simp [elseTokens]

@[simp] theorem placeholders_flatMap {α : Type} (l : List α) (f : α → List Token) :
    placeholders (l.flatMap f) = l.flatMap fun a => placeholders (f a) := List.filterMap_flatMap

@[simp] theorem placeholders_caseTokens (branches : List (List Token × List Token))
    (otherwise : Option (List Token)) :
    placeholders (caseTokens branches otherwise) =
      branches.flatMap (fun b => placeholders b.1 ++ placeholders b.2)
        ++ otherwise.toList.flatMap placeholders := by
  simp [caseTokens_eq]

/-- What a dialect writes around a time holds no placeholder. -/
theorem placeholders_timestampTokens {ts : List Token} (h : placeholders ts = []) (d : Dialect) :
    placeholders (d.timestampTokens ts) = [] := by
  cases d with
  | postgres => exact h
  | sqlite =>
    simp [Dialect.timestampTokens, Sqlite.timestamp, Sqlite.strftime, call, h]

theorem placeholders_bucketTokens {ts : List Token} (h : placeholders ts = []) (d : Dialect)
    (b : Bucket) :
    placeholders (d.bucketTokens ts b) = [] := by
  have ht : placeholders (Sqlite.timestamp ts) = [] := placeholders_timestampTokens h .sqlite
  cases d <;> cases b <;>
    simp [Dialect.bucketTokens, Sqlite.bucket, Sqlite.minuteMultiple, Sqlite.strftime,
      Postgres.bucket, Postgres.bin, Postgres.truncate, call, h, ht]

end Layout

namespace Expr

def parameter? : Expr → Option Nat
  | .param index => some index
  | _ => none

/-- The parameters of an expression in the order of its text. -/
def params (e : Expr) : List Nat := e.nodes.filterMap parameter?

theorem params_eq (e : Expr) : e.params = e.parameter?.toList ++ e.parts.flatMap params := by
  rw [params, nodes_eq, List.filterMap_cons, List.filterMap_flatMap]
  cases e.parameter? <;> rfl

end Expr

/-- The parameters of a query in the order of its text. -/
def Query.params (q : Query) : List Nat := q.exprs.flatMap Expr.params

namespace Expr

@[simp] theorem params_column (table : Option String) (name : String) :
    (column table name).params = [] := by
  rw [params_eq]
  rfl

@[simp] theorem params_literal (l : Literal) : (literal l).params = [] := by
  rw [params_eq]
  rfl

@[simp] theorem params_param (index : Nat) : (param index).params = [index] := by
  rw [params_eq]
  rfl

@[simp] theorem flatMap_params_map_param (l : List Nat) : (l.map param).flatMap params = l := by
  induction l with
  | nil => rfl
  | cons i l ih => simp [ih]

@[simp] theorem params_binary (op : BinOp) (left right : Expr) :
    (binary op left right).params = left.params ++ right.params := by
  rw [params_eq]
  simp [parameter?, parts]

@[simp] theorem params_call (name : String) (distinct : Bool) (args : List Expr) :
    (call name distinct args).params = args.flatMap params := by
  rw [params_eq]
  simp [parameter?, parts]

@[simp] theorem params_case (branches : List (Expr × Expr)) (otherwise : Option Expr) :
    (case branches otherwise).params =
      branches.flatMap (fun b => b.1.params ++ b.2.params) ++ otherwise.toList.flatMap params := by
  rw [params_eq]
  simp [parameter?, parts, List.flatMap_assoc]

@[simp] theorem params_inList (e : Expr) (values : List Expr) (negated : Bool) :
    (inList e values negated).params = e.params ++ values.flatMap params := by
  rw [params_eq]
  simp [parameter?, parts]

@[simp] theorem params_inQuery (e : Expr) (query : Query) (negated : Bool) :
    (inQuery e query negated).params = e.params ++ query.params := by
  rw [params_eq]
  simp [parameter?, parts, Query.params]

@[simp] theorem params_between (e low high : Expr) (negated : Bool) :
    (between e low high negated).params = e.params ++ low.params ++ high.params := by
  rw [params_eq]
  simp [parameter?, parts]

@[simp] theorem params_isNull (e : Expr) (negated : Bool) :
    (isNull e negated).params = e.params := by
  rw [params_eq]
  simp [parameter?, parts]

@[simp] theorem params_like (e pattern : Expr) (escape : Char) (anyCase : Bool) :
    (like e pattern escape anyCase).params = e.params ++ pattern.params := by
  rw [params_eq]
  simp [parameter?, parts]

@[simp] theorem params_bucket (e : Expr) (b : Bucket) : (bucket e b).params = e.params := by
  rw [params_eq]
  simp [parameter?, parts]

@[simp] theorem params_timestamp (e : Expr) : (timestamp e).params = e.params := by
  rw [params_eq]
  simp [parameter?, parts]

theorem params_of_isCell {e : Expr} (h : e.isCell) : e.params = [] := by
  obtain ⟨table, name, rfl | rfl⟩ := exists_of_isCell h <;> simp

end Expr

section Layout

@[simp] theorem placeholders_clause (multiline : Bool) (ts : List Token) :
    placeholders (clause multiline ts) = placeholders ts := by
  cases multiline <;> simp [clause]

@[simp] theorem placeholders_columnTokens (table : Option String) (name : String) :
    placeholders (columnTokens table name) = [] := by
  cases table <;> simp [columnTokens]

@[simp] theorem placeholders_aliasTokens (label : Option String) :
    placeholders (aliasTokens label) = [] := by
  cases label <;> simp [aliasTokens]

@[simp] theorem placeholders_direction (direction : Option Direction) :
    placeholders (Direction.tokens direction) = [] := by
  rcases direction with _ | _ | _ <;> simp [Direction.tokens]

theorem placeholders_selectTokens (multiline : Bool) (items : List (List Token)) :
    placeholders (selectTokens multiline items) = items.flatMap placeholders := by
  rw [selectTokens, placeholders_cons, placeholders_intercalate (by simp), List.flatMap_map]
  cases multiline <;> simp

theorem placeholders_listClause (multiline : Bool) (head : Keyword) (parts : List (List Token)) :
    placeholders (listClause multiline head parts) = parts.flatMap placeholders := by
  cases parts <;> simp [listClause]

theorem placeholders_limitClause (multiline : Bool) (limit : Option Nat) :
    placeholders (limitClause multiline limit) = [] := by
  cases limit <;> simp [limitClause]

end Layout

variable (d : Dialect)

theorem Query.placeholders_tokens_eq (q : Query) (multiline : Bool) :
    placeholders (q.tokens d multiline) = q.exprs.flatMap fun e => placeholders (e.tokens d) := by
  have hs : placeholders (sourceClause multiline q.source) = [] := by
    cases q.source <;> simp [sourceClause]
  have hf : placeholders (filterClause multiline (q.filter.map (Expr.tokens d))) =
      q.filter.toList.flatMap fun e => placeholders (e.tokens d) := by
    cases q.filter <;> simp [filterClause]
  rw [Query.tokens_eq]
  simp [hs, hf, placeholders_selectTokens, placeholders_listClause, placeholders_limitClause,
    Query.exprs, List.flatMap_map, joinHead]

theorem Expr.placeholders_of_isCell {e : Expr} (h : e.isCell) : placeholders (e.tokens d) = [] := by
  obtain ⟨table, name, rfl | rfl⟩ := exists_of_isCell h
  · exact placeholders_columnTokens table name
  · exact placeholders_timestampTokens (placeholders_columnTokens table name) d

theorem Expr.isCell_of_isColumn {e : Expr} (h : e.isColumn) : e.isCell := by
  obtain ⟨table, name, rfl⟩ := exists_of_isColumn h
  rfl

/-- A text holds the placeholders of its parts, in their order. -/
theorem Expr.placeholders_tokens_eq {e : Expr} (h : e.TakesCells) :
    placeholders (e.tokens d) = e.parameter?.toList ++ e.parts.flatMap fun x =>
      placeholders (x.tokens d) := by
  cases e with
  | column | literal | param | binary | not | paren | between | isNull =>
    simp [Expr.tokens, parameter?, parts]
  | call name distinct args =>
    cases distinct <;> simp [Expr.tokens, parameter?, parts, List.flatMap_map]
  | case branches otherwise =>
    cases otherwise <;>
      simp [Expr.case_tokens_eq, parameter?, parts, List.flatMap_map, List.flatMap_assoc]
  | inList e values negated =>
    cases values with
    | nil =>
      have he := placeholders_of_isCell d (e := e) h
      cases negated <;> simp [Expr.tokens, parameter?, parts, he]
    | cons v vs => simp [Expr.tokens, parameter?, parts, List.flatMap_map]
  | inQuery e query negated => simp [Expr.tokens, parameter?, parts, Query.placeholders_tokens_eq]
  | like e pattern escape anyCase => cases anyCase <;> simp [Expr.tokens, parameter?, parts]
  | bucket e b =>
    have he := placeholders_of_isCell d (isCell_of_isColumn (e := e) h)
    simp [Expr.tokens, parameter?, parts, placeholders_bucketTokens he, he]
  | timestamp e =>
    have he := placeholders_of_isCell d (isCell_of_isColumn (e := e) h)
    simp [Expr.tokens, parameter?, parts, placeholders_timestampTokens he, he]

/-- The text of a regular expression holds the placeholders of its parameters, in the same order. -/
theorem Expr.placeholders_tokens {e : Expr} (h : e.Regular) :
    placeholders (e.tokens d) = e.params := by
  induction e using Expr.parts_induct with
  | step e ih =>
    rw [placeholders_tokens_eq d h.self, params_eq]
    congr 1
    exact List.flatMap_congr fun x hx => ih x hx (h.part hx)

end IncidentBoard.Sql
