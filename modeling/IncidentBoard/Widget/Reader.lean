import IncidentBoard.Calendar.Layout
import IncidentBoard.Json.Document
import IncidentBoard.Widget.Basic

/-! Reading definitions and windows from JSON. -/
namespace IncidentBoard

namespace Widget

def readEnum {α : Type} (all : List α) (name : α → String) (d : Document) : Option α := do
  let s ← d.name?
  all.find? (name · == s)

def Filter.read (d : Document) : Option Filter := do
  let field ← d.fields? ["table", "column", "operator", "value"]
  return {
    table := ← (← field "table").asString?
    column := ← (← field "column").asString?
    operator := ← (← field "operator").asString?
    value := ← Document.withDefault .null Document.value? (field "value") }

def Field.read (d : Document) : Option Field := do
  let field ← d.fields? ["table", "column", "alias", "aggregation", "filter"]
  return {
    table := ← (← field "table").asString?
    column := ← (← field "column").asString?
    label := ← Document.optional Document.asString? (field "alias")
    aggregation := ← Document.optional Document.asString? (field "aggregation")
    filter := ← Document.optional Filter.read (field "filter") }

def readInt64 : Document → Option Int64
  | .int n => if Word.isSigned n then some (.ofInt n) else none
  | _ => none

def Options.read (d : Document) : Option Options := do
  let field ← d.fields? ["time_column", "sort", "limit", "display", "percentage_numerator",
    "percentage_denominator", "total_label"]
  return {
    timeColumn := ← Document.optional Document.asString? (field "time_column")
    sort := ← Document.optional (readEnum SortOrder.all SortOrder.name) (field "sort")
    limit := ← Document.optional readInt64 (field "limit")
    display := ← Document.optional (readEnum DisplayMode.all DisplayMode.name) (field "display")
    percentageNumerator := ← Document.optional Document.asString? (field "percentage_numerator")
    percentageDenominator := ← Document.optional Document.asString? (field "percentage_denominator")
    totalLabel := ← Document.optional Document.asString? (field "total_label") }

def Definition.read (d : Document) : Option Definition := do
  let field ← d.fields? ["chart_type", "fields", "group_by", "filters", "time_bucket", "options"]
  return {
    chartType := ← Document.optional (readEnum ChartType.all ChartType.name) (field "chart_type")
    fields := ← Document.withDefault [] (Document.list? Field.read) (field "fields")
    groupBy := ← Document.withDefault [] (Document.list? Document.asString?) (field "group_by")
    filters := ← Document.withDefault [] (Document.list? Filter.read) (field "filters")
    timeBucket := ← Document.optional (readEnum Bucket.all Bucket.name) (field "time_bucket")
    options := ← Document.withDefault {} Options.read (field "options") }

def Definition.ofJson? (j : Json) : Option Definition := Definition.read (.ofJson j)

def Definition.parse? (s : String) : Option Definition := (Document.parse? s).bind Definition.read

end Widget

namespace Timeframe

/-- Why a window cannot be read: a text that is no timestamp, or a value of another shape. -/
inductive ReadError
  | notATimestamp (text : String)
  | malformed
  deriving DecidableEq

def ReadError.message? : ReadError → Option String
  | .notATimestamp s => some ("not a timestamp: " ++ s)
  | .malformed => none

def readBound (parse : String → Option Timestamp) : Document → Except ReadError (Option Timestamp)
  | .null => .ok none
  | .str s => match parse s with
    | some t => .ok (some t)
    | none => .error (.notATimestamp s)
  | _ => .error .malformed

/-- One member after the other: the first that cannot be read decides the error. -/
def readMembers (w : Timeframe) (seen : List String) :
    List (Option String × Document) → Except ReadError Timeframe
  | [] => .ok w
  | (none, _) :: _ => .error .malformed
  | (some key, d) :: rest =>
    if seen.contains key then .error .malformed
    else if key = "start" then do
      readMembers { w with start := ← readBound Timestamp.parse? d } ("start" :: seen) rest
    else if key = "end" then do
      readMembers { w with stop := ← readBound Timestamp.parseEnd? d } ("end" :: seen) rest
    else readMembers w seen rest

/-- An object with bounds `start` and `end`, or the list of the two. -/
def read : Document → Except ReadError Timeframe
  | .obj members => readMembers unbounded [] members
  | .arr [] => .ok unbounded
  | .arr (start :: rest) => do
    let start ← readBound Timestamp.parse? start
    match rest with
    | [] => return ⟨start, none⟩
    | stop :: rest =>
      let stop ← readBound Timestamp.parseEnd? stop
      if rest.isEmpty then return ⟨start, stop⟩ else .error .malformed
  | _ => .error .malformed

def ofJson (j : Json) : Except ReadError Timeframe := read (.ofJson j)

end Timeframe

end IncidentBoard
