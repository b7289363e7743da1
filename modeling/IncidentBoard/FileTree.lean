import IncidentBoard.Host

/-! Files in directories, as a machine of its own. -/
namespace IncidentBoard

/-- Places are lists of names from the root on. Commands run in `current`; whatever holds a file is
a directory, too. -/
structure FileTree where
  current : List String
  directories : List (List String) := []
  files : List (List String × String)

namespace FileTree

def fileAt (t : FileTree) (place : List String) : Option String := t.files.lookup place

def isDirectory (t : FileTree) (place : List String) : Bool :=
  place == t.current || t.directories.contains place ||
    t.files.any fun f => place.isPrefixOf f.1 && place != f.1

def maxName : Nat := 255

def maxPath : Nat := 4095

/-- Where names lead from a place. Every place with a name after it has to be a directory. -/
def walk (t : FileTree) : List String → List String → Except FileError (List String)
  | place, [] => .ok place
  | place, name :: rest =>
    if t.isDirectory place then
      if name = "" ∨ name = "." then t.walk place rest
      else if name = ".." then t.walk place.dropLast rest
      else if maxName < name.utf8ByteSize then .error .nameTooLong
      else t.walk (place ++ [name]) rest
    else .error (if (t.fileAt place).isSome then .notDirectory else .missing)

def find (t : FileTree) (path : String) : Except FileError (List String) :=
  if path = "" then .error .missing
  else if maxPath < path.utf8ByteSize then .error .nameTooLong
  else t.walk (if path.startsWith "/" then [] else t.current) (pathNames path)

def fileText (t : FileTree) (path : String) : Except FileError String := do
  let place ← t.find path
  match t.fileAt place with
  | some s => .ok s
  | none => .error (if t.isDirectory place then .directory else .missing)

def canOpen (t : FileTree) (access : FileAccess) (path : String) : Bool :=
  match t.find path with
  | .error _ => false
  | .ok place =>
    if (t.fileAt place).isSome then true
    else if t.isDirectory place then access == .read
    else access == .create && t.isDirectory place.dropLast

/-- The machine with these files and variables. -/
def host (t : FileTree) (env : Environment) : Host Id := ⟨env, t.fileText, t.canOpen⟩

end FileTree

end IncidentBoard
