import IncidentBoard.Settings.Basic
import IncidentBoard.Toml.Document

/-! Settings from TOML texts. -/
namespace IncidentBoard.Settings

open Toml

def string? : Value → Option String
  | .str s => some s
  | _ => none

def bool? : Value → Option Bool
  | .bool b => some b
  | _ => none

/-- A natural number of 64 bits. -/
def natural? : Value → Option Nat
  | .int n => if Word.isUnsigned n then some n.toNat else none
  | _ => none

def isEmptyValue : Value → Bool
  | .array _ items => items.isEmpty
  | .table _ members => members.isEmpty
  | _ => false

/-- A dialect by its name, which may also be the only key of a table, with nothing in it. -/
def dialect? : Value → Option Sql.Dialect
  | .str s => [Sql.Dialect.sqlite, .postgres].find? (·.name == s)
  | .table _ [(s, v)] =>
      if isEmptyValue v then [Sql.Dialect.sqlite, .postgres].find? (·.name == s) else none
  | _ => none

/-- The values of named fields: from a table, of which other keys need only be readable, or from an
array in the order of the names, of which items past the last are not looked at. A moment has none
of the fields. -/
def fields? (names : List String) : Value → Option (String → Option Value)
  | .table _ members =>
    if members.all fun (key, v) => names.contains key || v.isReadable then some (members.lookup ·)
    else none
  | .array _ items => some ((names.zip items).lookup ·)
  | .moment => some fun _ => none
  | _ => none

def orDefault {α : Type} (default : α) (read : Value → Option α) : Option Value → Option α
  | none => some default
  | some v => read v

def readStore (v : Value) : Option StoreSettings := do
  let field ← fields? ["path", "dialect"] v
  return {
    path := ← orDefault none (fun v => (string? v).map some) (field "path")
    dialect := ← orDefault .sqlite dialect? (field "dialect") }

def readLimits (v : Value) : Option Limits := do
  let field ← fields? ["max_points", "max_limit"] v
  let standard : Limits := {}
  return {
    maxPoints := ← orDefault standard.maxPoints natural? (field "max_points")
    maxLimit := ← orDefault standard.maxLimit natural? (field "max_limit") }

def readLogging (v : Value) : Option LogSettings := do
  let field ← fields? ["level", "json"] v
  let standard : LogSettings := {}
  return {
    level := ← orDefault standard.level string? (field "level")
    json := ← orDefault standard.json bool? (field "json") }

def read (v : Value) : Option Settings := do
  let field ← fields? ["store", "limits", "logging"] v
  return {
    store := ← orDefault {} readStore (field "store")
    limits := ← orDefault {} readLimits (field "limits")
    logging := ← orDefault {} readLogging (field "logging") }

/-- Settings from the text of a file. -/
def parse (s : String) : Except Fault Settings :=
  match (Toml.parse? s).bind read with
  | some settings => settings.validate
  | none => .error .malformed

end IncidentBoard.Settings
