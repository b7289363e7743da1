import IncidentBoard.Engine
import IncidentBoard.Settings.Variables

/-! What can be set for a board: its store, its limits and its log. -/
namespace IncidentBoard

/-- Where the store is, with references to variables, and the dialect that it speaks. -/
structure StoreSettings where
  path : Option String := none
  dialect : Sql.Dialect := .sqlite
  deriving DecidableEq, Repr

structure LogSettings where
  level : String := "info"
  json : Bool := false
  deriving DecidableEq, Repr

structure Settings where
  store : StoreSettings := {}
  limits : Limits := {}
  logging : LogSettings := {}
  deriving DecidableEq, Repr

namespace Settings

inductive Fault
  | fileNotFound (path : String)
  | unreadable (e : FileError)
  | malformed
  | missingVariable (name : String)
  | zeroLimit (name : String)
  deriving DecidableEq, Repr

def Fault.message : Fault → String
  | .fileNotFound path => "Config file not found: " ++ path
  | .unreadable e => "Failed to read config file: " ++ e.message
  | .malformed => "Failed to parse config file"
  | .missingVariable name => "Missing environment variable: " ++ name
  | .zeroLimit name => "Invalid configuration: limits." ++ name ++ " must be at least 1"

/-- No limit is zero. -/
def validate (s : Settings) : Except Fault Settings :=
  if s.limits.maxPoints = 0 then .error (.zeroLimit "max_points")
  else if s.limits.maxLimit = 0 then .error (.zeroLimit "max_limit")
  else .ok s

/-- The path of the store with its variables filled in. -/
def storePath (s : Settings) (env : Environment) : Except Fault (Option String) :=
  match s.store.path with
  | none => .ok none
  | some path =>
    match expand env path with
    | .ok path => .ok (some path)
    | .error name => .error (.missingVariable name)

def toJson (s : Settings) : Json :=
  .ofMembers [
    ("store", .ofMembers
      [("path", .ofOption .str s.store.path), ("dialect", .str s.store.dialect.name)]),
    ("limits", .ofMembers
      [("max_points", .int s.limits.maxPoints), ("max_limit", .int s.limits.maxLimit)]),
    ("logging", .ofMembers [("level", .str s.logging.level), ("json", .bool s.logging.json)])]

end Settings

end IncidentBoard
