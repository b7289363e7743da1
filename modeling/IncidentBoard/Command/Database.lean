import IncidentBoard.Engine
import IncidentBoard.Store.Location

/-! Opening the database of a command. -/
namespace IncidentBoard.Command

open Store

/-- A database without tables. -/
def emptyDatabase : Store Unit where
  dialect := .sqlite
  fetch _ s := (.error (.rejected "no such table"), s)

def cannotOpen (path : String) : StoreError := .rejected ("unable to open database file: " ++ path)

variable {m : Type → Type} [Monad m]

/-- Follows the names of a path, none of which may lead through a file or be too long. -/
def follow (host : Host m) (place : Location.Place) : List String → m (Option Location.Place)
  | [] => return some place
  | name :: rest => do
    let next := place.step name
    match ← host.fileText next.path with
    | .error .notDirectory | .error .nameTooLong => return none
    | _ => follow host next rest

def canOpenFile (host : Host m) (access : FileAccess) (path : String) : m Bool := do
  match ← follow host { isAbsolute := path.startsWith "/" } (pathNames path) with
  | none => return false
  | some place => host.canOpen access place.path

/-- The database that a path or a URI names. -/
def openDatabase (host : Host m) (path : String) : m (Except StoreError (Store Unit)) := do
  match Location.parse path with
  | .error e => return .error (.rejected e.message)
  | .ok .memory => return .ok emptyDatabase
  | .ok (.file access file) =>
    if ← canOpenFile host access file then return .ok emptyDatabase
    else return .error (cannotOpen path)

end IncidentBoard.Command
