import IncidentBoard.Settings.Reader

/-! Where settings are looked for. -/
namespace IncidentBoard.Settings

/-- A path below a directory. -/
def below (directory path : String) : String :=
  if directory.endsWith "/" then directory ++ path else directory ++ "/" ++ path

/-- The file of a user: below the directory for configurations if that is an absolute path, or else
below the one in the home directory. -/
def userFile? (configHome home : Option String) : Option String :=
  match configHome.filter (·.startsWith "/") with
  | some directory => some (below directory "lookout/config.toml")
  | none => (home.filter (· ≠ "")).map (below · ".config/lookout/config.toml")

def ofFile (path : String) : Except FileError String → Except Fault Settings
  | .ok text => parse text
  | .error e => .error (if e.isAbsence then .fileNotFound path else .unreadable e)

variable {m : Type → Type} [Monad m]

/-- The first file that is there; without one, all is as by default. -/
def firstOf (host : Host m) : List String → m (Except Fault Settings)
  | [] => return .ok {}
  | path :: rest => do
    match ← host.fileText path with
    | .ok text => return parse text
    | .error e => if e.isAbsence then firstOf host rest else return .error (.unreadable e)

/-- A file that a variable names has to be there; otherwise it is the one in the current directory
or the one of the user. -/
def load (host : Host m) : m (Except Fault Settings) := do
  match ← host.variableOf "LOOKOUT_CONFIG" with
  | some path => return ofFile path (← host.fileText path)
  | none =>
    let user := userFile? (← host.variableOf "XDG_CONFIG_HOME") (← host.variableOf "HOME")
    firstOf host ("lookout.toml" :: user.toList)

end IncidentBoard.Settings
