import IncidentBoard.Schema.Basic
import IncidentBoard.Text.Blank
import IncidentBoard.Text.WordChar

/-! The registered tables of alerts and cases. Widgets can name no other table or column. -/
namespace IncidentBoard.Schema

open Sql Widget

def baseTable : String := "alerts"

/-- Which alerts belong to which cases; joined through, never selected from. -/
def linkTable : String := "alert_case_association"

def linkRowColumn : String := "alert_id"

def linkCaseColumn : String := "case_id"

def fromBase (table column key : String) : JoinStep := ⟨table, baseTable, column, key⟩

/-- In the order of their names. -/
def tables : List Table :=
  [⟨"alert_resolution_status",
    [("resolution_status_id", .integer), ("resolution_status_name", .text)],
    [fromBase "alert_resolution_status" "alert_resolution_status_id" "resolution_status_id"]⟩,
   ⟨"alert_status",
    [("status_id", .integer), ("status_name", .text), ("status_description", .text)],
    [fromBase "alert_status" "alert_status_id" "status_id"]⟩,
   ⟨baseTable,
    [("alert_id", .integer), ("alert_uuid", .text), ("alert_title", .text),
     ("alert_description", .text), ("alert_source", .text), ("alert_source_ref", .text),
     ("alert_severity_id", .integer), ("alert_status_id", .integer),
     ("alert_resolution_status_id", .integer), ("alert_classification_id", .integer),
     ("alert_customer_id", .integer), ("alert_owner_id", .integer),
     ("alert_creation_time", .timestamp), ("alert_source_event_time", .timestamp),
     ("alert_tags", .text)],
    []⟩,
   ⟨"case_classification",
    [("id", .integer), ("name", .text), ("name_expanded", .text)],
    [fromBase "case_classification" "alert_classification_id" "id"]⟩,
   ⟨"cases",
    [("case_id", .integer), ("name", .text), ("description", .text), ("open_date", .timestamp),
     ("close_date", .timestamp), ("status_id", .integer), ("severity_id", .integer),
     ("owner_id", .integer), ("client_id", .integer), ("classification_id", .integer)],
    [fromBase linkTable "alert_id" linkRowColumn, ⟨"cases", linkTable, linkCaseColumn, "case_id"⟩]⟩,
   ⟨"client",
    [("client_id", .integer), ("name", .text), ("description", .text)],
    [fromBase "client" "alert_customer_id" "client_id"]⟩,
   ⟨"severities",
    [("severity_id", .integer), ("severity_name", .text), ("severity_description", .text)],
    [fromBase "severities" "alert_severity_id" "severity_id"]⟩,
   ⟨"users",
    [("id", .integer), ("name", .text), ("user", .text)],
    [fromBase "users" "alert_owner_id" "id"]⟩]

/-- The column of windows and buckets unless a definition names another. -/
def defaultTimeColumn : Column := ⟨baseTable, "alert_creation_time", .timestamp⟩

/-- The column with the customer that an alert belongs to. -/
def customerColumn : Column := ⟨baseTable, "alert_customer_id", .integer⟩

def rowColumn : Column := ⟨baseTable, "alert_id", .integer⟩

def findTable (name : String) : Except DefinitionError Table :=
  match tables.find? (·.name == name) with
  | some t => .ok t
  | none => .error (.unknownTable name)

def resolve (table column : String) : Except DefinitionError Column := do
  let t ← findTable table
  match t.column? column with
  | some c => return c
  | none => .error (.unknownColumn table column)

/-- A letter or underscore, and word characters. -/
def isName : List Char → Bool
  | [] => false
  | c :: cs => (c.isAlpha || c == '_') && cs.all Text.isWordChar

/-- `table.column`: two names around a point. -/
def splitReference? (cs : List Char) : Option (String × String) :=
  let (table, rest) := cs.span (· != '.')
  let column := rest.drop 1
  if isName table && isName column then some (String.ofList table, String.ofList column) else none

def resolveReference (reference : String) : Except DefinitionError Column :=
  match splitReference? (Text.trim reference.toList) with
  | some (table, column) => resolve table column
  | none => .error (.invalidReference reference)

/-- The joins that reach a table; an unregistered one is reached by none. -/
def joinPath (table : String) : List JoinStep :=
  match tables.find? (·.name == table) with
  | some t => t.path
  | none => []

end IncidentBoard.Schema
