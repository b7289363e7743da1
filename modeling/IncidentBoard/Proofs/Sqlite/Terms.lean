import IncidentBoard.Sql.Printer

/-! How SQLite reads the tokens of an expression. -/
namespace IncidentBoard.Sql.Sqlite

/-- An expression that was read; parentheses are gone. -/
inductive Term
  | column (table : Option String) (name : String)
  | int (n : Int)
  | text (s : String)
  | call (name : String) (args : List Term)
  | binary (op : BinOp) (left right : Term)
  /-- `CASE WHEN condition THEN a ELSE b END`. -/
  | choice (condition a b : Term)

namespace Term

def isBlank : Token → Bool
  | .space | .newline | .indent _ => true
  | _ => false

/-- The operators between two operands, and how strongly each binds. -/
def operator? : Token → Option (BinOp × Nat)
  | .symbol .eq => some (.eq, 0)
  | .symbol .ne => some (.ne, 0)
  | .symbol .lt => some (.lt, 1)
  | .symbol .gt => some (.gt, 1)
  | .symbol .le => some (.le, 1)
  | .symbol .ge => some (.ge, 1)
  | .symbol .plus => some (.plus, 2)
  | .symbol .minus => some (.minus, 2)
  | .symbol .times => some (.times, 3)
  | .symbol .divide => some (.divide, 3)
  | .symbol .concat => some (.concat, 4)
  | _ => none

/-- The rest of a text that goes on with a certain token. -/
def expect? (expected : Token → Bool) : List Token → Option (List Token)
  | t :: ts => if expected t then some ts else none
  | [] => none

def isKeyword (k : Keyword) : Token → Bool
  | .keyword k' => k == k'
  | _ => false

def isSymbol (s : Symbol) : Token → Bool
  | .symbol s' => s == s'
  | _ => false

mutual

/-- Reads operands with operators that bind at least as strongly as `least`, from left to right. -/
def readFrom? : Nat → Nat → List Token → Option (Term × List Token)
  | 0, _, _ => none
  | fuel + 1, least, ts => do
    let (left, ts) ← readOperand? fuel ts
    goOn? fuel least left ts

def goOn? : Nat → Nat → Term → List Token → Option (Term × List Token)
  | 0, _, _, _ => none
  | _ + 1, _, left, [] => some (left, [])
  | fuel + 1, least, left, t :: ts =>
    match operator? t with
    | none => some (left, t :: ts)
    | some (op, strength) =>
      if strength < least then some (left, t :: ts)
      else do
        let (right, ts) ← readFrom? fuel (strength + 1) ts
        goOn? fuel least (.binary op left right) ts

def readOperand? : Nat → List Token → Option (Term × List Token)
  | 0, _ => none
  | _ + 1, .ident table :: .symbol .dot :: .ident name :: ts => some (.column (some table) name, ts)
  | _ + 1, .ident name :: ts => some (.column none name, ts)
  | _ + 1, .int n :: ts => some (.int n, ts)
  | _ + 1, .string s :: ts => some (.text s, ts)
  | fuel + 1, .function name :: .symbol .lparen :: ts => do
    let (args, ts) ← readArguments? fuel ts
    return (.call name args, ts)
  | fuel + 1, .symbol .lparen :: ts => do
    let (e, ts) ← readFrom? fuel 0 ts
    return (e, ← expect? (isSymbol .rparen) ts)
  | fuel + 1, .keyword .case' :: .keyword .when' :: ts => do
    let (condition, ts) ← readFrom? fuel 0 ts
    let (a, ts) ← readFrom? fuel 0 (← expect? (isKeyword .then') ts)
    let (b, ts) ← readFrom? fuel 0 (← expect? (isKeyword .else') ts)
    return (.choice condition a b, ← expect? (isKeyword .end') ts)
  | _ + 1, _ => none

/-- At least one argument, up to the closing parenthesis. -/
def readArguments? : Nat → List Token → Option (List Term × List Token)
  | 0, _ => none
  | fuel + 1, ts => do
    let (arg, ts) ← readFrom? fuel 0 ts
    match ts with
    | .symbol .comma :: ts =>
      let (args, ts) ← readArguments? fuel ts
      return (arg :: args, ts)
    | .symbol .rparen :: ts => return ([arg], ts)
    | _ => none

end

/-- The expression that a whole text is; every token is worth three steps. -/
def read? (ts : List Token) : Option Term :=
  let ts := ts.filter fun t => !isBlank t
  match readFrom? (3 * ts.length) 0 ts with
  | some (e, []) => some e
  | _ => none

end Term

open Term

/-! The texts of buckets, as they are read. -/

def strftimeTerm (format : String) (time : Term) (modifiers : List String) : Term :=
  .call "STRFTIME" (.text format :: time :: modifiers.map .text)

def timestampTerm (column : Term) : Term :=
  .choice (.binary .eq (.call "TYPEOF" [column]) (.text "integer"))
    (strftimeTerm canonical column ["unixepoch"]) (strftimeTerm canonical column [])

def flooredMinute (time : Term) (step : Int) : Term :=
  .binary .times (.binary .divide (strftimeTerm "%M" time []) (.int step)) (.int step)

def minuteMultipleTerm (time : Term) (step : Int) : Term :=
  .binary .concat
    (.binary .concat (strftimeTerm "%Y-%m-%dT%H:" time [])
      (.call "PRINTF" [.text "%02d", flooredMinute time step]))
    (.text ":00")

def bucketTerm (time : Term) : Bucket → Term
  | .minute => strftimeTerm "%Y-%m-%dT%H:%M:00" time []
  | .fiveMinutes => minuteMultipleTerm time 5
  | .fifteenMinutes => minuteMultipleTerm time 15
  | .hour => strftimeTerm "%Y-%m-%dT%H:00:00" time []
  | .day => strftimeTerm "%Y-%m-%dT00:00:00" time []
  | .week => strftimeTerm "%Y-%m-%dT00:00:00" time ["-6 days", "weekday 1"]
  | .month => strftimeTerm "%Y-%m-01T00:00:00" time []
  | .year => strftimeTerm "%Y-01-01T00:00:00" time []

theorem read?_bucket (table : Option String) (name : String) (b : Bucket) :
    read? ((Expr.bucket (.column table name) b).tokens .sqlite) =
      some (bucketTerm (timestampTerm (.column table name)) b) := by
  cases table <;> cases b <;> cbv

end IncidentBoard.Sql.Sqlite
