import IncidentBoard.Command.Report

/-! The program. -/
namespace IncidentBoard.Command

/-- The numbers tell apart what the machine reports in one way. -/
def fileError : IO.Error → FileError
  | .inappropriateType _ number _ => if number = 20 then .notDirectory else .directory
  | .invalidArgument _ number _ => if number = 36 then .nameTooLong else .missing
  | _ => .missing

/-- Files as this machine has them. -/
def readText (path : String) : IO (Except FileError String) := do
  try
    let bytes ← IO.FS.readBinFile path
    match String.fromUTF8? bytes with
    | some s => return .ok s
    | none => return .error .notText
  catch e => return .error (fileError e)

def fileMode : FileAccess → IO.FS.Mode
  | .read => .read
  | .write => .readWrite
  | .create => .append

/-- A file can be opened if this machine opens it. -/
def canOpen (access : FileAccess) (path : String) : IO Bool := do
  try
    let _ ← IO.FS.Handle.mk path (fileMode access)
    return true
  catch _ => return false

def machine : Host IO := ⟨fun name => IO.getEnv name, readText, canOpen⟩

end IncidentBoard.Command

def main (args : List String) : IO UInt32 := do
  let r ← IncidentBoard.Command.report IncidentBoard.Command.machine args
  IO.print r.stdout
  IO.eprint r.stderr
  return r.exit.toUInt32
