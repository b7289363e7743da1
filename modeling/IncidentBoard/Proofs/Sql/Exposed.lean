import IncidentBoard.Proofs.Sql.Composed
import Mathlib.Data.List.Basic

/-! Which operators of a text stand in no brackets, where what is around the text may take their
operands. -/
namespace IncidentBoard.Sql

inductive Bracket
  | paren | case
  deriving DecidableEq

namespace Token

/-- What is open behind a token, the innermost in front. -/
def nest : Token → List Bracket → List Bracket
  | .symbol .lparen, around => .paren :: around
  | .symbol .rparen, .paren :: around => around
  | .keyword .case', around => .case :: around
  | .keyword .end', .case :: around => around
  | _, around => around

/-- The operators between operands, and the words of `NOT` and of the tests. -/
def isOperator : Token → Bool
  | .symbol .eq | .symbol .ne | .symbol .lt | .symbol .gt | .symbol .le | .symbol .ge => true
  | .symbol .plus | .symbol .minus | .symbol .times | .symbol .divide | .symbol .concat => true
  | .keyword .and | .keyword .or | .keyword .not | .keyword .in' | .keyword .between => true
  | .keyword .like | .likeAnyCase | .keyword .isNull | .keyword .isNotNull => true
  | _ => false

theorem nest_of_not_isBracket {t : Token} (h : t.isBracket = false) (around : List Bracket) :
    t.nest around = around := by
  unfold nest
  split <;> first | rfl | contradiction

end Token

theorem BinOp.isOperator_token (op : BinOp) : op.token.isOperator := by cases op <;> rfl

/-- What is open behind a text. -/
def nested (around : List Bracket) (ts : List Token) : List Bracket :=
  ts.foldl (fun around t => t.nest around) around

/-- The operators of a text that stand where exactly `level` is open. -/
def operatorsAt (level around : List Bracket) : List Token → List Token
  | [] => []
  | t :: ts =>
      (if around = level ∧ t.isOperator then [t] else []) ++ operatorsAt level (t.nest around) ts

/-- The operators that stand in no parentheses and in no `CASE`. -/
def exposed (ts : List Token) : List Token := operatorsAt [] [] ts

section Nesting

variable {around level : List Bracket} {a b ts : List Token}

theorem nested_append : nested around (a ++ b) = nested (nested around a) b := List.foldl_append

theorem operatorsAt_append :
    operatorsAt level around (a ++ b) = operatorsAt level around a ++
      operatorsAt level (nested around a) b := by
  induction a generalizing around with
  | nil => rfl
  | cons t a ih => rw [List.cons_append, operatorsAt, ih, operatorsAt, List.append_assoc]; rfl

theorem operatorsAt_cons_of_ne {t : Token} (h : around ≠ level) :
    operatorsAt level around (t :: ts) = operatorsAt level (t.nest around) ts := by
  simp [operatorsAt, h]

theorem operatorsAt_cons_of_not {t : Token} (h : t.isOperator = false) :
    operatorsAt level around (t :: ts) = operatorsAt level (t.nest around) ts := by
  simp [operatorsAt, h]

/-- A text closes what it opens, and all of it stands inside of what is open around it. -/
structure Balanced (ts : List Token) : Prop where
  closes (around : List Bracket) : nested around ts = around
  inside {around level : List Bracket} (h : ¬ around <:+ level) : operatorsAt level around ts = []

theorem Balanced.nil : Balanced [] := ⟨fun _ => rfl, fun _ => rfl⟩

theorem Balanced.append (ha : Balanced a) (hb : Balanced b) : Balanced (a ++ b) where
  closes around := by rw [nested_append, ha.closes, hb.closes]
  inside h := by rw [operatorsAt_append, ha.closes, ha.inside h, hb.inside h, List.append_nil]

theorem Balanced.single {t : Token} (ht : t.isBracket = false) : Balanced [t] where
  closes around := Token.nest_of_not_isBracket ht around
  inside {around level} h := by
    have hne : around ≠ level := fun heq => h (heq ▸ List.suffix_rfl)
    rw [operatorsAt_cons_of_ne hne, operatorsAt]

/-- Between an opening bracket and the closing one everything is one level deeper. -/
theorem Balanced.enclose {left right : Token} {o : Bracket} (hl : left.isOperator = false)
    (hr : right.isOperator = false) (hleft : ∀ around, left.nest around = o :: around)
    (hright : ∀ around, right.nest (o :: around) = around) (h : Balanced ts) :
    Balanced (left :: (ts ++ [right])) ∧
      ∀ around, operatorsAt around around (left :: (ts ++ [right])) = [] := by
  have within {around level : List Bracket} (hlevel : ¬ o :: around <:+ level) :
      operatorsAt level around (left :: (ts ++ [right])) = [] := by
    rw [operatorsAt_cons_of_not hl, hleft, operatorsAt_append, h.closes, h.inside hlevel,
      operatorsAt_cons_of_not hr, operatorsAt, List.append_nil]
  refine ⟨⟨fun around => ?_, fun hlevel => within fun hdeep => ?_⟩, fun around =>
    within fun hdeep => ?_⟩
  · change nested (left.nest around) (ts ++ [right]) = around
    rw [hleft, nested_append, h.closes]
    exact hright around
  · exact hlevel ((List.suffix_cons o _).trans hdeep)
  · have hlen := hdeep.length_le
    rw [List.length_cons] at hlen
    omega

theorem Balanced.parens (h : Balanced ts) :
    Balanced (parens ts) ∧ ∀ around, operatorsAt around around (Sql.parens ts) = [] :=
  h.enclose (o := .paren) rfl rfl (fun _ => rfl) (fun _ => rfl)

theorem Balanced.block (h : Balanced ts) :
    Balanced (.keyword .case' :: (ts ++ [.space, .keyword .end'])) ∧
      ∀ around, operatorsAt around around (.keyword .case' :: (ts ++ [.space, .keyword .end'])) =
        [] := by
  have hbody : Balanced (ts ++ [.space]) := h.append (single rfl)
  have hsplit : ts ++ [Token.space, Token.keyword .end'] = ts ++ [.space] ++ [.keyword .end'] := by
    simp
  rw [hsplit]
  exact hbody.enclose (o := .case) rfl rfl (fun _ => rfl) (fun _ => rfl)

theorem Composed.balanced (h : Composed ts) : Balanced ts := by
  induction h with
  | nil => exact Balanced.nil
  | single ht => exact Balanced.single ht
  | cons ht _ _ ih => exact (Balanced.single ht).append ih
  | append _ _ _ iha ihb => exact iha.append ihb
  | parens _ ih => exact ih.parens.1
  | block _ ih => exact ih.block.1

/-- A text exposes the same operators wherever it stands. -/
theorem Composed.operatorsAt_self (h : Composed ts) (around : List Bracket) :
    operatorsAt around around ts = exposed ts := by
  unfold exposed
  induction h with
  | nil => rfl
  | single _ => simp [operatorsAt]
  | cons ht _ _ ih => simp [operatorsAt, Token.nest_of_not_isBracket ht, ih]
  | append ha _ _ iha ihb =>
    rw [operatorsAt_append, operatorsAt_append, ha.balanced.closes, ha.balanced.closes, iha, ihb]
  | parens h _ => rw [h.balanced.parens.2, h.balanced.parens.2]
  | block h _ => rw [h.balanced.block.2, h.balanced.block.2]

/-- An operator between two texts is exposed, whatever stands behind it. -/
theorem exposed_of_operator {op : Token} (ha : Composed a) (hop : op.isOperator) :
    exposed (a ++ .space :: op :: b) ≠ [] := by
  rw [exposed, operatorsAt_append, ha.balanced.closes, operatorsAt_cons_of_not rfl]
  simp [operatorsAt, Token.nest, hop]

end Nesting

/-- A text that stands in any place as a name does: the operators that are not inside of it are the
same. -/
def StandsAlone (ts : List Token) : Prop :=
  ∀ (before after : List Token) (name : String) (level : List Bracket),
  (nested [] before <:+ level → level = nested [] before) →
    operatorsAt level [] (before ++ ts ++ after) =
      operatorsAt level [] (before ++ .ident name :: after)

theorem Composed.standsAlone_iff_exposed {ts : List Token} (h : Composed ts) :
    StandsAlone ts ↔ exposed ts = [] := by
  constructor
  · intro halone
    have hnone := halone [] [] "" [] fun _ => rfl
    simpa [exposed, operatorsAt, Token.isOperator] using hnone
  · intro hnone before after name level hlevel
    have hown : operatorsAt level (nested [] before) ts = [] := by
      by_cases hsuffix : nested [] before <:+ level
      · rw [hlevel hsuffix, h.operatorsAt_self, hnone]
      · exact h.balanced.inside hsuffix
    rw [operatorsAt_append, operatorsAt_append, nested_append, h.balanced.closes, hown,
      operatorsAt_append, operatorsAt_cons_of_not rfl, List.append_nil]
    rfl

namespace Expr

/-- Printed with an operator between or before its operands, or with a test behind one. -/
def isOperation : Expr → Bool
  | .binary .. | .not _ | .inList .. | .inQuery .. | .between .. | .isNull .. | .like .. => true
  | _ => false

/-- The expression whose timestamp is taken. -/
def untimed : Expr → Expr
  | .timestamp e => e.untimed
  | e => e

/-- Postgres writes a timestamp as what it is taken of, which may be an operation. -/
def PassesThrough (d : Dialect) (e : Expr) : Prop := d = .postgres ∧ e.untimed.isOperation

variable {d : Dialect} {e : Expr}

theorem tokens_untimed (e : Expr) : e.untimed.tokens .postgres = e.tokens .postgres := by
  induction e using untimed.induct with
  | case1 e ih => exact ih
  | case2 e h =>
    rw [untimed]
    exact h

theorem untimed_ne_timestamp (e x : Expr) : e.untimed ≠ .timestamp x := by
  induction e using untimed.induct with
  | case1 e ih => exact ih
  | case2 e h =>
    rw [untimed]
    · exact h x
    · exact h

theorem composed_operand (d : Dialect) (e : Expr) (place : Nat) :
    Composed (operand e (e.tokens d) place) :=
  (e.composed_tokens d).operand e place

/-- The word of a test stands behind its left operand. -/
theorem exposed_test {k : Keyword} (hk : (Token.keyword k).isOperator) (x : Expr) (negated : Bool)
    (rest : List Token) : exposed (operand x (x.tokens d) 5 ++ negation negated
      ++ [Token.space, Token.keyword k, Token.space] ++ rest) ≠ [] := by
  have hleft : Composed (operand x (x.tokens d) 5 ++ negation negated) :=
    (composed_operand d x 5).trail (trails_negation negated)
  rw [List.append_assoc]
  exact exposed_of_operator hleft hk

theorem exposed_of_isOperation (h : e.isOperation) : exposed (e.tokens d) ≠ [] := by
  cases e with
  | binary op left right =>
    exact exposed_of_operator (composed_operand d left _) op.isOperator_token
  | not x => exact List.cons_ne_nil _ _
  | inList x values negated =>
    cases values with
    | nil => exact exposed_of_operator (a := [.int 1]) (.single rfl) (by cases negated <;> rfl)
    | cons v vs => exact exposed_test rfl x negated _
  | inQuery x query negated => exact exposed_test rfl x negated _
  | between x low high negated => exact exposed_test rfl x negated _
  | isNull x negated =>
    exact exposed_of_operator (composed_operand d x 5) (by cases negated <;> rfl)
  | like x pattern escape anyCase =>
    rw [tokens, infixed, List.append_assoc]
    exact exposed_of_operator (composed_operand d x 5) (by cases anyCase <;> rfl)
  | _ => contradiction

section Tight

theorem exposed_parens {ts : List Token} (h : Composed ts) : exposed (parens ts) = [] :=
  h.balanced.parens.2 []

theorem exposed_function {name : String} {ts : List Token} (h : Composed ts) :
    exposed (.function name :: parens ts) = [] := by
  rw [exposed, operatorsAt_cons_of_not rfl]
  exact exposed_parens h

theorem exposed_call {name : String} {parts : List (List Token)} (h : ∀ ts ∈ parts, Composed ts) :
    exposed (Sql.call name parts) = [] := exposed_function (Composed.commaList h)

theorem exposed_caseTokens {branches : List (List Token × List Token)}
    {otherwise : Option (List Token)} (hb : ∀ b ∈ branches, Composed b.1 ∧ Composed b.2)
    (ho : ∀ e ∈ otherwise, Composed e) :
    exposed (caseTokens branches otherwise) = [] := by
  rw [caseTokens_eq]
  exact (Composed.caseBody hb ho).balanced.block.2 []

/-- A name, a value, a call, a `CASE` or parentheses. -/
def isPrimary : Expr → Bool
  | .column .. | .literal _ | .param _ | .call .. | .case .. | .paren _ => true
  | _ => false

theorem exposed_of_isPrimary (h : e.isPrimary) : exposed (e.tokens d) = [] := by
  have part (x : Expr) : Composed (x.tokens d) := x.composed_tokens d
  cases e with
  | column table name => cases table <;> rfl
  | literal l => cases l <;> rfl
  | param index => rfl
  | call name distinct args =>
    refine exposed_function (composed_arguments distinct ?_)
    rw [listTokens_eq]
    exact List.forall_mem_map.2 fun x _ => part x
  | case branches otherwise =>
    rw [case_tokens_eq, branchTokens_eq]
    refine exposed_caseTokens (List.forall_mem_map.2 fun b _ => ⟨part b.1, part b.2⟩)
      fun ts hts => ?_
    obtain ⟨x, -, rfl⟩ := Option.map_eq_some_iff.1 hts
    exact part x
  | paren x => exact exposed_parens (part x)
  | _ => contradiction

/-- SQLite writes a timestamp as a `CASE`. -/
theorem exposed_sqliteTimestamp (x : Expr) : exposed ((timestamp x).tokens .sqlite) = [] := by
  have hx := x.composed_tokens .sqlite
  rw [tokens, Dialect.timestampTokens, Sqlite.timestamp]
  exact exposed_caseTokens (List.forall_mem_singleton.2 ⟨hx.timeTest, hx.strftime⟩)
    (by simpa using hx.strftime)

/-- Postgres cuts to a bucket by a call. -/
theorem exposed_postgresBucket (x : Expr) (b : Bucket) :
    exposed ((bucket x b).tokens .postgres) = [] := by
  have hx := x.composed_tokens .postgres
  have behind {ts : List Token} {rest : List (List Token)} (hts : Composed ts)
    (h : ∀ ts ∈ rest, Composed ts) :
      ∀ us ∈ ts :: rest, Composed us := List.forall_mem_cons.2 ⟨hts, h⟩
  have truncate (unit : String) : exposed (Postgres.truncate unit (x.tokens .postgres)) = [] :=
    exposed_call (behind (.single rfl) (behind hx (by simp)))
  have bin (step : String) : exposed (Postgres.bin step (x.tokens .postgres)) = [] :=
    exposed_call (behind (.single rfl) (behind hx (behind (.single rfl) (by simp))))
  rw [tokens, Dialect.bucketTokens]
  cases b with
  | fiveMinutes | fifteenMinutes => exact bin _
  | minute | hour | day | week | month | year => exact truncate _

theorem exposed_postgres (e : Expr) :
    exposed (e.tokens .postgres) = [] ↔ ¬ e.untimed.isOperation := by
  rw [← tokens_untimed]
  refine ⟨fun hnone hop => exposed_of_isOperation hop hnone, fun hop => ?_⟩
  cases hx : e.untimed with
  | column | literal | param | call | case | paren => exact exposed_of_isPrimary rfl
  | bucket x b => exact exposed_postgresBucket x b
  | timestamp x => exact absurd hx (untimed_ne_timestamp e x)
  | _ => simp [hx, isOperation] at hop

end Tight

/-- What holds together most strongly is never put in parentheses. It stands alone unless it is the
timestamp of an operation in Postgres, whose operators it exposes. -/
theorem standsAlone_iff_not_passesThrough (d : Dialect) {e : Expr} (h : e.precedence = 255) :
    (∀ ts place, place ≤ 255 → operand e ts place = ts) ∧
      (exposed (e.tokens d) = [] ↔ ¬ e.PassesThrough d) ∧
        (StandsAlone (e.tokens d) ↔ ¬ e.PassesThrough d) := by
  have hbare : ∀ ts place, place ≤ 255 → operand e ts place = ts := by
    intro ts place hplace
    rw [operand, if_neg (by omega)]
  have hexposed : exposed (e.tokens d) = [] ↔ ¬ e.PassesThrough d := by
    cases d with
    | postgres => simp [exposed_postgres, PassesThrough]
    | sqlite =>
      have hnone : exposed (e.tokens .sqlite) = [] := by
        cases e with
        | column | literal | param | call | case | paren => exact exposed_of_isPrimary rfl
        | timestamp x => exact exposed_sqliteTimestamp x
        | binary op => cases op <;> simp [precedence, BinOp.precedence] at h
        | _ => simp [precedence] at h
      simp [hnone, PassesThrough]
  exact ⟨hbare, hexposed, (e.composed_tokens d).standsAlone_iff_exposed.trans hexposed⟩

theorem standsAlone_iff_not_passesThrough_eitherDate :
    let e := Expr.timestamp (.or (.col "opened") (.col "closed"))
    e.precedence = 255 ∧ StandsAlone (e.tokens .sqlite) ∧ ¬ StandsAlone (e.tokens .postgres) := by
  have h : (Expr.timestamp (.or (.col "opened") (.col "closed"))).precedence = 255 := rfl
  obtain ⟨-, -, hsqlite⟩ := standsAlone_iff_not_passesThrough .sqlite h
  obtain ⟨-, -, hpostgres⟩ := standsAlone_iff_not_passesThrough .postgres h
  exact ⟨h, hsqlite.2 fun hpass => Dialect.noConfusion hpass.1, fun halone =>
    hpostgres.1 halone ⟨rfl, rfl⟩⟩

/-- In Postgres the timestamp of `a OR b` shows its operator, so that `AND` takes `b` out of it. -/
theorem exists_exposed_timestamp :
    let e := Expr.timestamp (.or (.col "a") (.col "b"))
    e.precedence = 255 ∧ exposed (e.tokens .postgres) = [.keyword .or] ∧
      (e.and (.col "c")).tokens .postgres =
        (Expr.or (.col "a") (.and (.col "b") (.col "c"))).tokens .postgres :=
  ⟨rfl, rfl, rfl⟩

end Expr

end IncidentBoard.Sql
