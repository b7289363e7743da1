import IncidentBoard.Command.Arguments
import IncidentBoard.Command.Database
import IncidentBoard.Settings.Load
import IncidentBoard.Widget.Reader

/-! Running commands: what they print and how they end. -/
namespace IncidentBoard.Command

open Access Plan Store Widget

structure Report where
  exit : Nat
  stdout : String := ""
  stderr : String := ""
  deriving DecidableEq, Repr

namespace Report

def success (lines : List String) : Report := ⟨0, unlines lines, ""⟩

def failure (message : String) : Report := ⟨1, "", message ++ "\n"⟩

/-- Arguments that ask for nothing. -/
def usage : Report := ⟨2, "", "Usage: " ++ programName ++ " <COMMAND>\n"⟩

end Report

/-- Runs a step and goes on with its result, unless it has already come to an end. -/
def andThen {α : Type} : Except Report α → (α → Report) → Report
  | .ok a, next => next a
  | .error r, _ => r

def bound (flag : String) (parse : String → Option Timestamp) :
    Option String → Except Report (Option Timestamp)
  | none => .ok none
  | some s =>
    match parse s with
    | some t => .ok (some t)
    | none => .error (.failure ("Error: " ++ flag ++ " is not a timestamp: " ++ s))

def Window.timeframe (w : Window) : Except Report Timeframe := do
  let start ← bound "--start" Timestamp.parse? w.start
  let stop ← bound "--end" Timestamp.parseEnd? w.stop
  return ⟨start, stop⟩

def definitionOf (file : String) : Except FileError String → Except Report Definition
  | .error e => .error (.failure ("Error reading file '" ++ file ++ "': " ++ e.message))
  | .ok s =>
    match Definition.parse? s with
    | some d => .ok d
    | none => .error (.failure "Error: Malformed widget definition")

/-- The placeholders of a plan with the values bound to them. -/
def boundLines (d : Sql.Dialect) : Nat → List SqlValue → List String
  | _, [] => []
  | n, v :: vs =>
    ("-- " ++ String.ofList [d.parameterMark] ++ toString n ++ " = " ++ v.display) ::
      boundLines d (n + 1) vs

def compileReport (settings : Settings) (dialect : Option Sql.Dialect) (d : Definition)
    (w : Timeframe) : Report :=
  let dialect := dialect.getD settings.store.dialect
  match compile d w settings.limits.maxLimit with
  | .ok plan => .success (plan.toSql dialect :: boundLines dialect 1 plan.params.values)
  | .error e => .failure ("Error: " ++ e.message)

def validateReport (settings : Settings) (d : Definition) : Report :=
  match compile d .unbounded settings.limits.maxLimit with
  | .ok plan => .success (
      ["✓ Widget is valid", "  Chart: " ++ plan.chartType.name,
        "  Columns: " ++ ", ".intercalate plan.selectLabels]
      ++ if plan.joins.isEmpty then [] else ["  Joins: " ++ toString plan.joins.length])
  | .error e => .failure ("✗ " ++ e.message)

/-- A chart that leaves the calendar ends the program at once. -/
def runReport {σ : Type} (store : Store σ) (limits : Limits) (scope : Scope) (d : Definition)
    (w : Timeframe) (s : σ) : Report :=
  match (execute store limits d w scope s).1 with
  | .error e => .failure ("Error: " ++ e.clientMessage)
  | .ok result =>
    match chart? limits d w result with
    | some payload => .success [payload.toJson.layout ""]
    | none => ⟨101, "", ""⟩

variable {m : Type → Type} [Monad m]

/-- The path of the database: the one given, or else the one that is set. -/
def databasePath (host : Host m) (settings : Settings) :
    Option String → m (Except Report (Option String))
  | some path => return .ok (some path)
  | none => do
    let env ← host.environment ((settings.store.path.map Settings.variablesIn).getD [])
    return (settings.storePath env).mapError fun e => .failure ("Error: " ++ e.message)

/-- The database at a path, or one in memory if there is no path. -/
def storeAt (host : Host m) (path : Option String) : m (Except Report (Store Unit)) := do
  match path with
  | none => return .ok emptyDatabase
  | some path =>
    return (← openDatabase host path).mapError fun e =>
      .failure ("Error opening store: " ++ e.message)

def storeOf (host : Host m) (settings : Settings) (db : Option String) :
    m (Except Report (Store Unit)) := do
  match ← databasePath host settings db with
  | .error r => return .error r
  | .ok path => storeAt host path

/-- The definition in a file and the window, of which the file is read first. -/
def inputs (host : Host m) (file : String) (w : Window) :
    m (Except Report (Definition × Timeframe)) := do
  let definition := definitionOf file (← host.fileText file)
  return do
    let d ← definition
    let w ← w.timeframe
    return (d, w)

def perform (host : Host m) (settings : Settings) : Invocation → m Report
  | .print text => return ⟨0, text, ""⟩
  | .compile file dialect window => do
    return andThen (← inputs host file window) fun (d, w) => compileReport settings dialect d w
  | .validate file => do
    return andThen (definitionOf file (← host.fileText file)) (validateReport settings)
  | .run file db window unrestricted customers cases => do
    match ← inputs host file window with
    | .error r => return r
    | .ok (d, w) =>
      let scope :=
        if unrestricted then .unrestricted else .scoped (.ofList customers) (.ofList cases)
      return andThen (← storeOf host settings db) fun store =>
        runReport store settings.limits scope d w ()

/-- Texts that are only printed need no settings. -/
def report (host : Host m) (args : List String) : m Report := do
  match invocation? args with
  | none => return .usage
  | some (.print text) => return ⟨0, text, ""⟩
  | some i =>
    match ← Settings.load host with
    | .error e => return .failure ("Error loading configuration: " ++ e.message)
    | .ok settings => perform host settings i

end IncidentBoard.Command
