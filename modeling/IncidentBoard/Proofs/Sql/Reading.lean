import IncidentBoard.Sql.Printer

/-! Reading the tokens of an expression by a table of how strongly its operators bind. -/
namespace IncidentBoard.Sql

def Token.isBlank : Token → Bool
  | .space | .newline | .indent _ => true
  | _ => false

/-- The tokens that are not blank. -/
def bare (ts : List Token) : List Token := ts.filter (!·.isBlank)

/-- How strongly operators bind. Those of one strength are read from left to right; what `IN`,
`BETWEEN`, `LIKE` and `IS NULL` have behind them binds more strongly than they do. -/
structure Strengths where
  op : BinOp → Nat
  not : Nat
  test : Nat

/-- The table that the printer sets its parentheses by. -/
def Strengths.printed : Strengths := ⟨BinOp.precedence, 3, 4⟩

/-- What may come after an operand. -/
inductive Suffix
  | binary (op : BinOp)
  | isNull (negated : Bool)
  | inList (negated : Bool)
  | between (negated : Bool)
  | like (anyCase : Bool)

def Strengths.suffix (g : Strengths) : Suffix → Nat
  | .binary op => g.op op
  | _ => g.test

namespace Reading

def binOp? : Token → Option BinOp
  | .symbol .eq => some .eq
  | .symbol .ne => some .ne
  | .symbol .lt => some .lt
  | .symbol .gt => some .gt
  | .symbol .le => some .le
  | .symbol .ge => some .ge
  | .keyword .and => some .and
  | .keyword .or => some .or
  | .symbol .plus => some .plus
  | .symbol .minus => some .minus
  | .symbol .times => some .times
  | .symbol .divide => some .divide
  | .symbol .concat => some .concat
  | _ => none

def suffix? : List Token → Option (Suffix × List Token)
  | .keyword .isNull :: ts => some (.isNull false, ts)
  | .keyword .isNotNull :: ts => some (.isNull true, ts)
  | .keyword .in' :: ts => some (.inList false, ts)
  | .keyword .not :: .keyword .in' :: ts => some (.inList true, ts)
  | .keyword .between :: ts => some (.between false, ts)
  | .keyword .not :: .keyword .between :: ts => some (.between true, ts)
  | .keyword .like :: ts => some (.like false, ts)
  | .likeAnyCase :: ts => some (.like true, ts)
  | t :: ts => (binOp? t).map fun op => (.binary op, ts)
  | [] => none

/-- An operand of a single name or value. -/
def readLeaf? : List Token → Option (Expr × List Token)
  | .ident table :: .symbol .dot :: .ident name :: ts => some (.column (some table) name, ts)
  | .ident name :: ts => some (.column none name, ts)
  | .int n :: ts => some (.literal (.int n), ts)
  | .float x :: ts => some (.literal (.float x), ts)
  | .keyword .null :: ts => some (.literal .null, ts)
  | .param index :: ts => some (.param index, ts)
  | _ => none

def close? : List Token → Option (List Token)
  | .symbol .rparen :: ts => some ts
  | _ => none

def end? : List Token → Option (List Token)
  | .keyword .end' :: ts => some ts
  | _ => none

/-- The character behind `ESCAPE`. -/
def escape? : List Token → Option (Char × List Token)
  | .keyword .escape :: .string s :: ts =>
    match s.toList with
    | [c] => some (c, ts)
    | _ => none
  | _ => none

/-- Operands in parentheses bind most strongly. -/
def tightest : Nat := 255

theorem length_of_suffix? {ts rest : List Token} {f : Suffix} (h : suffix? ts = some (f, rest)) :
    rest.length < ts.length := by
  unfold suffix? at h
  split at h
  case h_9 =>
    obtain ⟨op, -, h⟩ := Option.map_eq_some_iff.1 h
    cases h
    exact Nat.lt_succ_self _
  all_goals cases h <;> simp only [List.length_cons] <;> omega

/-! Where a reader goes on with what another one has left, that is checked to be shorter than what
was there. It always is, and so reading comes to an end. -/

mutual

/-- Reads an expression that binds at least as strongly as `least`, and what is left after it. -/
def readFrom? (g : Strengths) (least : Nat) (ts : List Token) : Option (Expr × List Token) :=
  match ts with
  | .keyword .not :: ts =>
    if least ≤ g.not then do
      let (e, rest) ← readFrom? g g.not ts
      if _ : rest.length < ts.length + 1 then goOn? g least g.not (.not e) rest else none
    else none
  | ts => do
    let (e, rest) ← readOperand? g ts
    if _ : rest.length < ts.length then goOn? g least tightest e rest else none
termination_by (ts.length, 1)

/-- Goes on after `left`, which binds as strongly as `most`. -/
def goOn? (g : Strengths) (least most : Nat) (left : Expr) (ts : List Token) :
    Option (Expr × List Token) :=
  match h : suffix? ts with
  | none => some (left, ts)
  | some (f, rest) =>
    have := length_of_suffix? h
    if least ≤ g.suffix f ∧ g.suffix f ≤ most then do
      let (e, rest) ← readSuffix? g left f rest
      if _ : rest.length < ts.length then goOn? g least (g.suffix f) e rest else none
    else some (left, ts)
termination_by (ts.length, 0)

def readSuffix? (g : Strengths) (left : Expr) (f : Suffix) (ts : List Token) :
    Option (Expr × List Token) :=
  match f with
  | .binary op => do
    let (right, rest) ← readFrom? g (g.op op + 1) ts
    return (.binary op left right, rest)
  | .isNull negated => some (.isNull left negated, ts)
  | .inList negated =>
    match ts with
    | .symbol .lparen :: ts => do
      let (values, rest) ← readList? g ts
      return (.inList left values negated, rest)
    | _ => none
  | .between negated => do
    let (low, rest) ← readFrom? g (g.test + 1) ts
    match rest with
    | .keyword .and :: rest =>
      if _ : rest.length < ts.length then do
        let (high, rest) ← readFrom? g (g.test + 1) rest
        return (.between left low high negated, rest)
      else none
    | _ => none
  | .like anyCase => do
    let (pattern, rest) ← readFrom? g (g.test + 1) ts
    let (escape, rest) ← escape? rest
    return (.like left pattern escape anyCase, rest)
termination_by (ts.length, 2)

def readOperand? (g : Strengths) (ts : List Token) : Option (Expr × List Token) :=
  match ts with
  | .symbol .lparen :: ts => do
    let (e, rest) ← readFrom? g 0 ts
    return (e, ← close? rest)
  | .function name :: .symbol .lparen :: .keyword .distinct :: ts => do
    let (args, rest) ← readArguments? g ts
    return (.call name true args, rest)
  | .function name :: .symbol .lparen :: ts => do
    let (args, rest) ← readArguments? g ts
    return (.call name false args, rest)
  | .keyword .case' :: ts => do
    let (branches, rest) ← readBranches? g ts
    match rest with
    | .keyword .else' :: rest =>
      if _ : rest.length < ts.length then do
        let (e, rest) ← readFrom? g 0 rest
        return (.case branches (some e), ← end? rest)
      else none
    | rest => return (.case branches none, ← end? rest)
  | ts => readLeaf? ts
termination_by (ts.length, 0)

/-- At least one expression, up to the closing parenthesis. -/
def readList? (g : Strengths) (ts : List Token) : Option (List Expr × List Token) := do
  let (e, rest) ← readFrom? g 0 ts
  match rest with
  | .symbol .comma :: rest =>
    if _ : rest.length < ts.length then do
      let (es, rest) ← readList? g rest
      return (e :: es, rest)
    else none
  | rest => return ([e], ← close? rest)
termination_by (ts.length, 2)

def readArguments? (g : Strengths) (ts : List Token) : Option (List Expr × List Token) :=
  match ts with
  | .symbol .rparen :: ts => some ([], ts)
  | ts => readList? g ts
termination_by (ts.length, 3)

def readBranches? (g : Strengths) (ts : List Token) : Option (List (Expr × Expr) × List Token) :=
  match ts with
  | .keyword .when' :: ts => do
    let (condition, rest) ← readFrom? g 0 ts
    match rest with
    | .keyword .then' :: rest =>
      if _ : rest.length < ts.length then do
        let (result, rest) ← readFrom? g 0 rest
        if _ : rest.length < ts.length then do
          let (branches, rest) ← readBranches? g rest
          return ((condition, result) :: branches, rest)
        else none
      else none
    | _ => none
  | ts => some ([], ts)
termination_by (ts.length, 2)

end

/-- The expression that a whole text is. -/
def read? (g : Strengths) (ts : List Token) : Option Expr :=
  match readFrom? g 0 (bare ts) with
  | some (e, []) => some e
  | _ => none

end Reading

end IncidentBoard.Sql
