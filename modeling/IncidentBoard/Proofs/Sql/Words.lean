import IncidentBoard.Proofs.Sql.Nodes
import IncidentBoard.Proofs.Sql.Reading

/-! The tokens of an expression without blanks. -/
namespace IncidentBoard.Sql

section Bare

variable {ts us : List Token}

@[simp] theorem bare_nil : bare [] = [] := rfl

@[simp] theorem bare_append : bare (ts ++ us) = bare ts ++ bare us := List.filter_append ts us

theorem bare_cons_blank {t : Token} (h : t.isBlank) : bare (t :: ts) = bare ts := by
  simp [bare, h]

theorem bare_cons {t : Token} (h : t.isBlank = false) : bare (t :: ts) = t :: bare ts := by
  simp [bare, h]

@[simp] theorem bare_space : bare (.space :: ts) = bare ts := bare_cons_blank rfl

@[simp] theorem bare_keyword {k : Keyword} : bare (.keyword k :: ts) = .keyword k :: bare ts :=
  bare_cons rfl

@[simp] theorem bare_symbol {s : Symbol} : bare (.symbol s :: ts) = .symbol s :: bare ts :=
  bare_cons rfl

@[simp] theorem bare_op (op : BinOp) : bare (op.token :: ts) = op.token :: bare ts :=
  bare_cons (by cases op <;> rfl)

/-- Items with a comma between two of them. -/
def commas : List (List Token) → List Token
  | [] => []
  | [ts] => ts
  | ts :: rest => ts ++ .symbol .comma :: commas rest

@[simp] theorem bare_parens : bare (parens ts) = parens (bare ts) := by simp [parens]

theorem bare_commaList (parts : List (List Token)) :
    bare (commaList parts) = commas (parts.map bare) := by
  induction parts using commas.induct with
  | case1 => rfl
  | case2 ts => simp [commaList, commas, List.intercalate]
  | case3 ts rest hne ih =>
    obtain ⟨us, rest, rfl⟩ := List.exists_cons_of_ne_nil fun h => hne h
    rw [commaList] at ih
    rw [commaList, List.intercalate_cons_cons, bare_append, ih]
    simp [commas]

end Bare

namespace Expr

/-- The tokens of an expression without blanks. -/
def words (d : Dialect) (e : Expr) : List Token := bare (e.tokens d)

/-- The words of an operand, in parentheses if it holds together less than its place asks for. -/
def operandWords (d : Dialect) (e : Expr) (place : Nat) : List Token :=
  if e.precedence < place then parens (e.words d) else e.words d

variable {d : Dialect}

theorem operandWords_of_le {e : Expr} {place : Nat} (h : place ≤ e.precedence) :
    e.operandWords d place = e.words d :=
  if_neg (Nat.not_lt.2 h)

@[simp] theorem bare_tokens (e : Expr) : bare (e.tokens d) = e.words d := rfl

@[simp] theorem bare_operand (e : Expr) (place : Nat) :
    bare (operand e (e.tokens d) place) = e.operandWords d place := by
  unfold operand operandWords
  split
  · rw [bare_parens, bare_tokens]
  · rw [bare_tokens]

def notWord (negated : Bool) : List Token := if negated then [.keyword .not] else []

@[simp] theorem bare_negation (negated : Bool) : bare (negation negated) = notWord negated := by
  cases negated <;> rfl

theorem words_column (table : Option String) (name : String) :
    (column table name).words d = columnTokens table name := by
  cases table <;> rfl

theorem words_literal (l : Literal) : (literal l).words d = [l.token] := by
  cases l <;> rfl

theorem words_param (index : Nat) : (param index).words d = [.param index] := rfl

theorem words_binary (op : BinOp) (left right : Expr) : (binary op left right).words d =
    left.operandWords d op.leftPlace ++ op.token :: right.operandWords d op.rightPlace := by
  rw [words, tokens]
  simp [infixed]

theorem words_not (e : Expr) : (Expr.not e).words d = .keyword .not :: e.operandWords d 3 := by
  rw [words, tokens]
  simp

theorem words_paren (e : Expr) : (paren e).words d = parens (e.words d) := by
  rw [words, tokens]
  simp

theorem words_call (name : String) (distinct : Bool) (args : List Expr) :
    (Expr.call name distinct args).words d =
    .function name :: parens ((if distinct then [.keyword .distinct] else []) ++
      commas (args.map (words d))) := by
  have h : ∀ ts, bare (.function name :: ts) = .function name :: bare ts := fun _ => bare_cons rfl
  rw [words, tokens, h]
  cases distinct <;> simp [bare_commaList, Function.comp_def]

/-- The words of a branch of `CASE`. -/
def branchWords (d : Dialect) (b : Expr × Expr) : List Token :=
  .keyword .when' :: (b.1.words d ++ .keyword .then' :: b.2.words d)

theorem words_case (branches : List (Expr × Expr)) (otherwise : Option Expr) :
    (Expr.case branches otherwise).words d = .keyword .case' :: (branches.flatMap (branchWords d)
      ++ (otherwise.elim [] fun e => .keyword .else' :: e.words d) ++ [.keyword .end']) := by
  have h :
      bare ((branches.map fun b => (b.1.tokens d, b.2.tokens d)).flatMap
        fun b => whenThen b.1 b.2) =
      branches.flatMap (branchWords d) := by
    induction branches with
    | nil => rfl
    | cons b rest ih =>
      rw [List.map_cons, List.flatMap_cons, bare_append, ih, List.flatMap_cons]
      simp [whenThen, branchWords]
  rw [words, case_tokens_eq, caseTokens_eq, branchTokens_eq, bare_keyword, bare_append,
    bare_append, h]
  cases otherwise <;> simp [elseTokens]

theorem words_emptyList (e : Expr) (negated : Bool) : (inList e [] negated).words d =
    [.int 1, .symbol (if negated then .eq else .ne), .int 1] := by
  cases negated <;> rfl

theorem words_inList (e v : Expr) (vs : List Expr) (negated : Bool) :
    (inList e (v :: vs) negated).words d =
    e.operandWords d 5 ++ (notWord negated ++ .keyword .in' ::
      parens (commas ((v :: vs).map (words d)))) := by
  rw [words, tokens]
  simp [bare_commaList, Function.comp_def]

theorem words_between (e low high : Expr) (negated : Bool) : (between e low high negated).words d =
    e.operandWords d 5 ++ (notWord negated ++ .keyword .between ::
      (low.operandWords d 5 ++ .keyword .and :: high.operandWords d 5)) := by
  rw [words, tokens]
  simp [infixed]

theorem words_isNull (e : Expr) (negated : Bool) : (isNull e negated).words d =
    e.operandWords d 5 ++ [.keyword (if negated then .isNotNull else .isNull)] := by
  rw [words, tokens]
  simp

def likeToken (anyCase : Bool) : Token := if anyCase then .likeAnyCase else .keyword .like

theorem words_like (e pattern : Expr) (escape : Char) (anyCase : Bool) :
    (like e pattern escape anyCase).words d =
    e.operandWords d 5 ++ likeToken anyCase :: (pattern.operandWords d 5
      ++ [.keyword .escape, .string (String.singleton escape)]) := by
  have h : bare [.keyword .escape, .space, .string (String.singleton escape)] =
      [.keyword .escape, .string (String.singleton escape)] := rfl
  have hlike : ∀ ts, bare (likeToken anyCase :: ts) = likeToken anyCase :: bare ts :=
    fun _ => bare_cons (by cases anyCase <;> rfl)
  rw [likeToken] at hlike ⊢
  rw [words, tokens]
  simp [infixed, hlike, h]

end Expr

end IncidentBoard.Sql
