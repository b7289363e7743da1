import IncidentBoard.Decimal.Style
import IncidentBoard.Text.Upper

/-! The tokens of SQL texts and how each is written. No token holds raw SQL. -/
namespace IncidentBoard.Sql

inductive Dialect
  | sqlite | postgres
  deriving DecidableEq, Repr

namespace Dialect

def name : Dialect → String
  | .sqlite => "sqlite"
  | .postgres => "postgres"

def ofName? (s : String) : Option Dialect :=
  if s = "sqlite" then some .sqlite
  else if s = "postgres" ∨ s = "postgresql" then some .postgres
  else none

/-- The case of ASCII letters does not matter; an unknown name is returned in lower case. -/
def parse (s : String) : Except String Dialect :=
  let lower := s.map Char.toLower
  match ofName? lower with
  | some d => .ok d
  | none => .error lower

def parameterMark : Dialect → Char
  | .sqlite => '?'
  | .postgres => '$'

/-- SQLite's `LIKE` ignores the case of ASCII letters as it is. -/
def caseless : Dialect → String
  | .sqlite => "LIKE"
  | .postgres => "ILIKE"

end Dialect

inductive Keyword
  | select | from' | where' | and | or | not | as | on | join | left | groupBy | orderBy
  | asc | desc | limit | case' | when' | then' | else' | end' | in' | between | like | escape
  | isNull | isNotNull | distinct | null
  deriving DecidableEq, Repr

def Keyword.text : Keyword → String
  | .select => "SELECT"
  | .from' => "FROM"
  | .where' => "WHERE"
  | .and => "AND"
  | .or => "OR"
  | .not => "NOT"
  | .as => "AS"
  | .on => "ON"
  | .join => "JOIN"
  | .left => "LEFT"
  | .groupBy => "GROUP BY"
  | .orderBy => "ORDER BY"
  | .asc => "ASC"
  | .desc => "DESC"
  | .limit => "LIMIT"
  | .case' => "CASE"
  | .when' => "WHEN"
  | .then' => "THEN"
  | .else' => "ELSE"
  | .end' => "END"
  | .in' => "IN"
  | .between => "BETWEEN"
  | .like => "LIKE"
  | .escape => "ESCAPE"
  | .isNull => "IS NULL"
  | .isNotNull => "IS NOT NULL"
  | .distinct => "DISTINCT"
  | .null => "NULL"

inductive Symbol
  | comma | dot | lparen | rparen
  | eq | ne | lt | gt | le | ge | plus | minus | times | divide | concat
  deriving DecidableEq, Repr

def Symbol.text : Symbol → String
  | .comma => ","
  | .dot => "."
  | .lparen => "("
  | .rparen => ")"
  | .eq => "="
  | .ne => "<>"
  | .lt => "<"
  | .gt => ">"
  | .le => "<="
  | .ge => ">="
  | .plus => "+"
  | .minus => "-"
  | .times => "*"
  | .divide => "/"
  | .concat => "||"

/-- The types whose literals are quoted texts after the type's name. -/
inductive LiteralType
  | interval | timestamp
  deriving DecidableEq, Repr

def LiteralType.text : LiteralType → String
  | .interval => "INTERVAL"
  | .timestamp => "TIMESTAMP"

inductive Token
  | keyword (k : Keyword)
  | symbol (s : Symbol)
  | space
  | newline
  | indent (depth : Nat)
  | ident (name : String)
  | int (n : Int)
  | float (x : Float)
  | string (s : String)
  | typed (type : LiteralType) (s : String)
  | param (index : Nat)
  | likeAnyCase
  | function (name : String)

/-- A text between quotes; a quote inside is written twice. -/
def quote (q : Char) (s : String) : List Char :=
  q :: (s.toList.flatMap (fun c => if c = q then [q, q] else [c]) ++ [q])

/-- Infinities and NaN have no literal. -/
def floatText (x : Float) : String := (Decimal.Style.sql.render? x).getD "NULL"

namespace Token

def chars (d : Dialect) : Token → List Char
  | .keyword k => k.text.toList
  | .symbol s => s.text.toList
  | .space => [' ']
  | .newline => ['\n']
  | .indent depth => List.replicate (2 * depth) ' '
  | .ident name => quote '"' name
  | .int n => (toString n).toList
  | .float x => (floatText x).toList
  | .string s => quote '\'' s
  | .typed type s => type.text.toList ++ ' ' :: quote '\'' s
  | .param index => d.parameterMark :: Nat.toDigits 10 index
  | .likeAnyCase => d.caseless.toList
  | .function name => (Text.upper name).toList

end Token

/-- The text of a list of tokens, with nothing between them. -/
def serialize (d : Dialect) (tokens : List Token) : String :=
  String.ofList (tokens.flatMap (Token.chars d))

end IncidentBoard.Sql
