import IncidentBoard.Sql.Expr
import IncidentBoard.Sql.Token
import IncidentBoard.Word

/-! Tokens of expressions and queries, with the parentheses that keep their structure. -/
namespace IncidentBoard.Sql

def BinOp.precedence : BinOp → Nat
  | .or => 1
  | .and => 2
  | .eq | .ne | .lt | .gt | .le | .ge => 4
  | .concat => 5
  | .plus | .minus => 6
  | .times | .divide => 7

def BinOp.token : BinOp → Token
  | .eq => .symbol .eq
  | .ne => .symbol .ne
  | .lt => .symbol .lt
  | .gt => .symbol .gt
  | .le => .symbol .le
  | .ge => .symbol .ge
  | .and => .keyword .and
  | .or => .keyword .or
  | .plus => .symbol .plus
  | .minus => .symbol .minus
  | .times => .symbol .times
  | .divide => .symbol .divide
  | .concat => .symbol .concat

/-- Whether a right operand of the same precedence may stand without parentheses. -/
def BinOp.associative : BinOp → Bool
  | .and | .or | .concat => true
  | _ => false

/-- How strongly an expression holds together; the strongest need no parentheses anywhere. -/
def Expr.precedence : Expr → Nat
  | .binary op _ _ => op.precedence
  | .not _ => 3
  | .inList .. | .inQuery .. | .between .. | .isNull .. | .like .. => 4
  | .bucket .. => 5
  | _ => 255

/-- `a, b, c` -/
def commaList (parts : List (List Token)) : List Token :=
  [.symbol .comma, .space].intercalate parts

def parens (ts : List Token) : List Token := .symbol .lparen :: (ts ++ [.symbol .rparen])

/-- The tokens `ts` of an operand, in parentheses if it holds together less than its place asks
for. -/
def operand (e : Expr) (ts : List Token) (place : Nat) : List Token :=
  if e.precedence < place then parens ts else ts

/-- The places of the two operands of an operator. -/
def BinOp.leftPlace (op : BinOp) : Nat := op.precedence

def BinOp.rightPlace (op : BinOp) : Nat :=
  if op.associative then op.precedence else op.precedence + 1

/-- `a op b` -/
def infixed (a : List Token) (op : Token) (b : List Token) : List Token :=
  a ++ .space :: op :: .space :: b

def call (name : String) (args : List (List Token)) : List Token :=
  .function name :: parens (commaList args)

def negation (negated : Bool) : List Token := if negated then [.space, .keyword .not] else []

/-- `CASE WHEN condition THEN a ELSE b END` -/
def caseTokens (branches : List (List Token × List Token)) (otherwise : Option (List Token)) :
    List Token :=
  .keyword .case' ::
    (branches.flatMap (fun (condition, result) =>
        [.space, .keyword .when', .space] ++ condition ++
          [.space, .keyword .then', .space] ++ result)
      ++ (match otherwise with
        | some e => [.space, .keyword .else', .space] ++ e
        | none => [])
      ++ [.space, .keyword .end'])

/-! Timestamps in the dialects. -/

namespace Sqlite

def strftime (format : String) (time : List Token) (modifiers : List String) : List Token :=
  call "STRFTIME" ([.string format] :: time :: modifiers.map fun m => [.string m])

/-- The layout of sort keys. -/
def canonical : String := "%Y-%m-%dT%H:%M:%S"

/-- Stored timestamps are texts or numbers of seconds; both become texts of one layout. -/
def timestamp (column : List Token) : List Token :=
  caseTokens
    [(infixed (call "TYPEOF" [column]) (.symbol .eq) [.string "integer"],
      strftime canonical column ["unixepoch"])]
    (some (strftime canonical column []))

/-- The last multiple of `step` minutes of the hour. -/
def minuteMultiple (time : List Token) (step : Int) : List Token :=
  let minute :=
    infixed (parens (infixed (strftime "%M" time []) (.symbol .divide) [.int step]))
      (.symbol .times) [.int step]
  infixed
    (infixed (strftime "%Y-%m-%dT%H:" time []) (.symbol .concat)
      (call "PRINTF" [[.string "%02d"], minute]))
    (.symbol .concat) [.string ":00"]

/-- Six days back and on to the next Monday is the Monday that starts the week. -/
def bucket (column : List Token) (b : Bucket) : List Token :=
  let time := timestamp column
  match b with
  | .minute => strftime "%Y-%m-%dT%H:%M:00" time []
  | .fiveMinutes => minuteMultiple time 5
  | .fifteenMinutes => minuteMultiple time 15
  | .hour => strftime "%Y-%m-%dT%H:00:00" time []
  | .day => strftime "%Y-%m-%dT00:00:00" time []
  | .week => strftime "%Y-%m-%dT00:00:00" time ["-6 days", "weekday 1"]
  | .month => strftime "%Y-%m-01T00:00:00" time []
  | .year => strftime "%Y-01-01T00:00:00" time []

end Sqlite

namespace Postgres

def truncate (unit : String) (column : List Token) : List Token :=
  call "DATE_TRUNC" [[.string unit], column]

/-- Steps are counted from a midnight, so that they start on the hour. -/
def bin (step : String) (column : List Token) : List Token :=
  call "DATE_BIN" [[.typed .interval step], column, [.typed .timestamp "2000-01-03 00:00:00"]]

def bucket (column : List Token) : Bucket → List Token
  | .fiveMinutes => bin "5 minutes" column
  | .fifteenMinutes => bin "15 minutes" column
  | .minute => truncate "minute" column
  | .hour => truncate "hour" column
  | .day => truncate "day" column
  | .week => truncate "week" column
  | .month => truncate "month" column
  | .year => truncate "year" column

end Postgres

namespace Dialect

def bucketTokens (d : Dialect) (column : List Token) (b : Bucket) : List Token :=
  match d with
  | .sqlite => Sqlite.bucket column b
  | .postgres => Postgres.bucket column b

def timestampTokens (d : Dialect) (column : List Token) : List Token :=
  match d with
  | .sqlite => Sqlite.timestamp column
  | .postgres => column

end Dialect

/-! Expressions and queries. -/

def Literal.token : Literal → Token
  | .int n => .int n
  | .float x => .float x
  | .null => .keyword .null

def columnTokens (table : Option String) (name : String) : List Token :=
  match table with
  | some t => [.ident t, .symbol .dot, .ident name]
  | none => [.ident name]

/-- A clause on a line of its own, or after a space. -/
def clause (multiline : Bool) (ts : List Token) : List Token :=
  (if multiline then .newline else .space) :: ts

/-- The items of a `SELECT`, each on an indented line or after a space. -/
def selectTokens (multiline : Bool) (items : List (List Token)) : List Token :=
  .keyword .select ::
    [Token.symbol .comma].intercalate
      (items.map ((if multiline then [.newline, .indent 1] else [.space]) ++ ·))

/-- A list of something is a clause of its own unless it is empty. -/
def listClause (multiline : Bool) (head : Keyword) : List (List Token) → List Token
  | [] => []
  | parts => clause multiline (.keyword head :: .space :: commaList parts)

/-- The limit is written as the 64-bit signed number with its bits. -/
def limitClause (multiline : Bool) : Option Nat → List Token
  | none => []
  | some n => clause multiline [.keyword .limit, .space, .int (Int.bmod n Word.count)]

def aliasTokens : Option String → List Token
  | none => []
  | some a => [.space, .keyword .as, .space, .ident a]

def Direction.tokens : Option Direction → List Token
  | none => []
  | some .asc => [.space, .keyword .asc]
  | some .desc => [.space, .keyword .desc]

mutual

/-- A list of values may be empty, which SQL does not allow: nothing is in it. -/
def Expr.tokens (d : Dialect) : Expr → List Token
  | .column table name => columnTokens table name
  | .literal l => [l.token]
  | .param index => [.param index]
  | .binary op left right =>
    infixed (operand left (left.tokens d) op.leftPlace) op.token
      (operand right (right.tokens d) op.rightPlace)
  | .not e => .keyword .not :: .space :: operand e (e.tokens d) 3
  | .call name distinct args =>
    .function name ::
      parens ((if distinct then [.keyword .distinct, .space] else []) ++
        commaList (Expr.listTokens d args))
  | .case branches none => caseTokens (Expr.branchTokens d branches) none
  | .case branches (some e) => caseTokens (Expr.branchTokens d branches) (some (e.tokens d))
  | .inList _ [] negated => infixed [.int 1] (.symbol (if negated then .eq else .ne)) [.int 1]
  | .inList e (v :: vs) negated =>
    operand e (e.tokens d) 5 ++ negation negated ++ [.space, .keyword .in', .space]
      ++ parens (commaList (v.tokens d :: Expr.listTokens d vs))
  | .inQuery e query negated =>
    operand e (e.tokens d) 5 ++ negation negated ++ [.space, .keyword .in', .space]
      ++ parens (query.tokens d false)
  | .between e low high negated =>
    operand e (e.tokens d) 5 ++ negation negated ++ [.space, .keyword .between, .space]
      ++ infixed (operand low (low.tokens d) 5) (.keyword .and) (operand high (high.tokens d) 5)
  | .isNull e negated =>
    operand e (e.tokens d) 5 ++ [.space, .keyword (if negated then .isNotNull else .isNull)]
  | .like e pattern escape anyCase =>
    infixed (operand e (e.tokens d) 5) (if anyCase then .likeAnyCase else .keyword .like)
        (operand pattern (pattern.tokens d) 5)
      ++ [.space, .keyword .escape, .space, .string (String.singleton escape)]
  | .paren e => parens (e.tokens d)
  | .bucket e b => d.bucketTokens (e.tokens d) b
  | .timestamp e => d.timestampTokens (e.tokens d)

def Expr.listTokens (d : Dialect) : List Expr → List (List Token)
  | [] => []
  | e :: es => e.tokens d :: Expr.listTokens d es

def Expr.branchTokens (d : Dialect) : List (Expr × Expr) → List (List Token × List Token)
  | [] => []
  | (condition, result) :: rest => (condition.tokens d, result.tokens d) :: Expr.branchTokens d rest

def Query.tokens (d : Dialect) (multiline : Bool) : Query → List Token
  | ⟨select, source, joins, filter, groupBy, orderBy, limit⟩ =>
    selectTokens multiline (Query.itemTokens d select)
      ++ (match source with
        | some table => clause multiline [.keyword .from', .space, .ident table]
        | none => [])
      ++ (Query.joinTokens d joins).flatMap (clause multiline)
      ++ (match filter with
        | some e => clause multiline (.keyword .where' :: .space :: e.tokens d)
        | none => [])
      ++ listClause multiline .groupBy (Expr.listTokens d groupBy)
      ++ listClause multiline .orderBy (Query.keyTokens d orderBy)
      ++ limitClause multiline limit

def Query.itemTokens (d : Dialect) : List (Item Expr) → List (List Token)
  | [] => []
  | ⟨e, a⟩ :: rest => (e.tokens d ++ aliasTokens a) :: Query.itemTokens d rest

def Query.joinTokens (d : Dialect) : List (Join Expr) → List (List Token)
  | [] => []
  | ⟨table, on⟩ :: rest =>
    ([.keyword .left, .space, .keyword .join, .space, .ident table, .space, .keyword .on, .space]
      ++ on.tokens d) :: Query.joinTokens d rest

def Query.keyTokens (d : Dialect) : List (SortKey Expr) → List (List Token)
  | [] => []
  | ⟨e, direction⟩ :: rest => (e.tokens d ++ Direction.tokens direction) :: Query.keyTokens d rest

end

def Expr.toSql (e : Expr) (d : Dialect) : String := serialize d (e.tokens d)

def Query.toSql (q : Query) (d : Dialect) : String := serialize d (q.tokens d true)

/-- On one line, as a subquery is written. -/
def Query.toSqlLine (q : Query) (d : Dialect) : String := serialize d (q.tokens d false)

end IncidentBoard.Sql
