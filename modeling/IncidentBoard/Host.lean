import IncidentBoard.Text.Split

/-! What a command reads of the machine that it runs on. -/
namespace IncidentBoard

/-- The names of a path. An empty one stands before a slash at the start and after one at the
end. -/
def pathNames (path : String) : List String := (Text.splitAtEvery '/' path.toList).map String.ofList

/-- Why a file cannot be read as text. `notDirectory` stands for a path that leads through a
file. -/
inductive FileError
  | missing | notDirectory | directory | nameTooLong | notText
  deriving DecidableEq, Repr

namespace FileError

def message : FileError → String
  | .missing => "No such file or directory (os error 2)"
  | .notDirectory => "Not a directory (os error 20)"
  | .directory => "Is a directory (os error 21)"
  | .nameTooLong => "File name too long (os error 36)"
  | .notText => "stream did not contain valid UTF-8"

/-- Nothing is there to be read. -/
def isAbsence : FileError → Bool
  | .missing | .notDirectory | .nameTooLong => true
  | .directory | .notText => false

end FileError

/-- What a file is opened for: reading, writing, or writing after it has been made if it is
missing. -/
inductive FileAccess
  | read | write | create
  deriving DecidableEq, Repr

/-- The value of each variable that is set. -/
abbrev Environment := String → Option String

/-- Variables are kept as entries `name=value`, of which the first that goes on like this after the
name counts. So a name with an equals sign in it may reach into a value. -/
def environmentOf (entries : List (String × String)) : Environment := fun name =>
  if name = "" then none
  else entries.findSome? fun (key, value) =>
    ((key ++ "=" ++ value).dropPrefix? (name ++ "=")).map (·.toString)

/-- A machine as it is seen from the monad `m`. -/
structure Host (m : Type → Type) where
  variableOf : String → m (Option String)
  fileText : String → m (Except FileError String)
  canOpen : FileAccess → String → m Bool

/-- The named variables and no others. -/
def Host.environment {m : Type → Type} [Monad m] (host : Host m) (names : List String) :
    m Environment := do
  let values ← names.mapM fun name => do return (name, ← host.variableOf name)
  return fun name => (values.lookup name).join

end IncidentBoard
