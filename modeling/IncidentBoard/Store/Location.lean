import IncidentBoard.Host
import IncidentBoard.Text.Percent

/-! Where a database is: in memory or in a file, which a path or a `file:` URI names. -/
namespace IncidentBoard.Store

open Text

inductive Location
  | memory
  | file (access : FileAccess) (path : String)
  deriving DecidableEq, Repr

inductive LocationError
  | nulByte (position : Nat)
  | authority (name : String)
  | unknownMode (kind value : String)
  | widened (value : String)
  | unknownSystem (name : String)
  deriving DecidableEq, Repr

def LocationError.message : LocationError → String
  | .nulByte position => "nul byte found in provided data at position: " ++ toString position
  | .authority name => "invalid uri authority: " ++ name
  | .unknownMode kind value => "no such " ++ kind ++ " mode: " ++ value
  | .widened value => "access mode not allowed: " ++ value
  | .unknownSystem name => "no such vfs: " ++ name

namespace Location

/-- An empty path stands for a temporary database, which like one in memory is found in no
directory. -/
def ofPath (access : FileAccess) (path : String) : Location :=
  if path = "" ∨ path = ":memory:" then .memory else .file access path

/-! The options of a URI. -/

/-- What options ask for: an access, or none for a database in memory, and a file system. -/
structure Request where
  access : Option FileAccess := some .create
  system : Option String := none

def accessRank : FileAccess → Nat
  | .read => 1
  | .write => 2
  | .create => 3

/-- An access by its name; memory has none. -/
def access? (value : String) : Option (Option FileAccess) :=
  [("ro", some .read), ("rw", some .write), ("rwc", some .create), ("memory", none)].lookup value

/-- An access to a file may not be widened by a later option. -/
def Request.restrict (r : Request) (value : String) : Except LocationError Request :=
  match access? value with
  | none => .error (.unknownMode "access" value)
  | some wanted =>
    match r.access, wanted with
    | some now, some next =>
      if accessRank now < accessRank next then .error (.widened value)
      else .ok { r with access := wanted }
    | _, _ => .ok { r with access := wanted }

def Request.add (r : Request) (name value : String) : Except LocationError Request :=
  if name = "vfs" then .ok { r with system := some value }
  else if name = "cache" then
    if ["shared", "private"].contains value then .ok r else .error (.unknownMode "cache" value)
  else if name = "mode" then r.restrict value
  else .ok r

/-- The name and the value of an option; without a name there is no option. -/
def option? (cs : List Char) : Option (String × String) :=
  let name := Percent.decode (cs.takeWhile (· ≠ '='))
  if name = "" then none else some (name, Percent.decode ((cs.dropWhile (· ≠ '=')).drop 1))

def requestOf (query : List Char) : Except LocationError Request :=
  ((splitAtEvery '&' query).filterMap option?).foldlM (fun r o => r.add o.1 o.2) {}

/-- The file systems that there are; the last one keeps its files in memory. -/
def systems : List String := ["unix", "unix-none", "unix-dotfile", "unix-excl", "memdb"]

def Request.location (r : Request) (path : String) : Except LocationError Location :=
  match r.system.filter (!systems.contains ·) with
  | some name => .error (.unknownSystem name)
  | none =>
    match r.access with
    | some access => .ok (if r.system = some "memdb" then .memory else ofPath access path)
    | none => .ok .memory

/-- Past two slashes and the name of a machine, which is empty or `localhost`. -/
def dropAuthority : List Char → Except LocationError (List Char)
  | '/' :: '/' :: rest =>
    let name := String.ofList (rest.takeWhile (· ≠ '/'))
    if name = "" ∨ name = "localhost" then .ok (rest.dropWhile (· ≠ '/'))
    else .error (.authority name)
  | cs => .ok cs

/-- A path, perhaps options past a question mark; nothing from a hash on counts. -/
def ofUri (cs : List Char) : Except LocationError Location := do
  let cs := (← dropAuthority cs).takeWhile (· ≠ '#')
  let request ← requestOf ((cs.dropWhile (· ≠ '?')).drop 1)
  request.location (Percent.decode (cs.takeWhile (· ≠ '?')))

def parse (s : String) : Except LocationError Location :=
  let before := s.toList.takeWhile (· ≠ '\x00')
  if before.length < s.toList.length then .error (.nulByte (String.ofList before).utf8ByteSize)
  else if s.startsWith "file:" then ofUri (s.toList.drop 5)
  else .ok (ofPath .create s)

/-! Paths are made shorter name by name before a file is opened. -/

/-- The names of a path, the last in front. -/
structure Place where
  isAbsolute : Bool
  names : List String := []

/-- One name further. Two dots take the last name back, and at the root they lead nowhere. -/
def Place.step (p : Place) (name : String) : Place :=
  if name = "" ∨ name = "." then p
  else if name = ".." then
    match p.names with
    | [] => if p.isAbsolute then p else { p with names := [name] }
    | last :: rest => { p with names := if last = ".." then name :: p.names else rest }
  else { p with names := name :: p.names }

def Place.path (p : Place) : String :=
  let path := "/".intercalate p.names.reverse
  if p.isAbsolute then "/" ++ path else if p.names.isEmpty then "." else path

end Location

end IncidentBoard.Store
