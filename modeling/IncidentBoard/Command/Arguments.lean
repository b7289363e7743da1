import IncidentBoard.Command.Option

/-! Reading the arguments of the program. -/
namespace IncidentBoard.Command

/-- A file and options with their values, the latest in front; an option without a value has an
empty one. -/
structure Matches where
  file : Option String := none
  options : List (String × String) := []

namespace Matches

def has (m : Matches) (long : String) : Bool := m.options.any (·.1 == long)

def value? (m : Matches) (long : String) : Option String := m.options.lookup long

/-- All values of an option in the order given. -/
def values (m : Matches) (long : String) : List String :=
  ((m.options.filter (·.1 == long)).map (·.2)).reverse

end Matches

/-- Why reading stops early: a mistake, or a question for help. -/
inductive Stop
  | mistake | help
  deriving DecidableEq, Repr

/-- Values are checked one by one; only some options may be given again. -/
def Matches.add (m : Matches) (f : Flag) (value : String) : Except Stop Matches :=
  if !f.accepts value || (m.has f.long && !f.repeats) then .error .mistake
  else .ok { m with options := (f.long, value) :: m.options }

/-- There is one file, and its name is not empty. -/
def Matches.addFile (m : Matches) (file : String) : Except Stop Matches :=
  if m.file.isSome || file.isEmpty then .error .mistake else .ok { m with file := some file }

/-- An argument that is an option or would be one; a lone dash is neither. -/
def isOptionLike (arg : String) : Bool := arg.startsWith "-" && arg != "-"

/-- An option as it is written, perhaps with a value in the same argument. -/
inductive Written
  | known (f : Flag) (attached : Option String)
  | help
  | unknown

/-- `--name` or `--name=value`. -/
def writtenLong (flags : List Flag) (cs : List Char) : Written :=
  let name := String.ofList (cs.takeWhile (· ≠ '='))
  let attached := match cs.dropWhile (· ≠ '=') with
    | _ :: value => some (String.ofList value)
    | [] => none
  match flags.find? (·.long == name) with
  | some f => .known f attached
  | none => if name = "help" ∧ attached.isNone then .help else .unknown

/-- `-x`, `-xvalue` or `-x=value`. -/
def writtenShort (flags : List Flag) : List Char → Written
  | [] => .unknown
  | c :: value =>
    match flags.find? (·.short == some c) with
    | some f => .known f (match value with
      | [] => none
      | '=' :: value => some (String.ofList value)
      | value => some (String.ofList value))
    | none => if c = 'h' then .help else .unknown

def written (flags : List Flag) (arg : String) : Written :=
  match arg.toList with
  | '-' :: '-' :: cs => writtenLong flags cs
  | '-' :: cs => writtenShort flags cs
  | _ => .unknown

/-- Reads options and the file in any order. Past two dashes alone, every argument is a file. -/
def scan (flags : List Flag) (literal : Bool) (m : Matches) : List String → Except Stop Matches
  | [] => .ok m
  | arg :: rest =>
    if !literal && arg == "--" then scan flags true m rest
    else if literal || !isOptionLike arg then do scan flags literal (← m.addFile arg) rest
    else
      match written flags arg with
      | .help => .error .help
      | .unknown => .error .mistake
      | .known f attached =>
        if f.placeholder.isNone then
          if attached.isSome then .error .mistake else do scan flags literal (← m.add f "") rest
        else
          match attached with
          | some value => do scan flags literal (← m.add f value) rest
          | none =>
            match rest with
            | [] => .error .mistake
            | value :: rest =>
              if isOptionLike value then .error .mistake
              else do scan flags literal (← m.add f value) rest

/-- The bounds of a window as they are written. -/
structure Window where
  start : Option String
  stop : Option String
  deriving DecidableEq, Repr

/-- What the program is asked to do. -/
inductive Invocation
  | compile (file : String) (dialect : Option Sql.Dialect) (window : Window)
  | run (file : String) (db : Option String) (window : Window) (unrestricted : Bool)
      (customers cases : List Int)
  | validate (file : String)
  | print (text : String)

def Matches.window (m : Matches) : Window := ⟨m.value? "start", m.value? "end"⟩

def Matches.ids (m : Matches) (long : String) : List Int := (m.values long).filterMap id?

/-- The file is required, and an unrestricted run names no ids. -/
def Matches.invocation? (m : Matches) (v : Verb) : Option Invocation := do
  let file ← m.file
  match v with
  | .compile => return .compile file ((m.value? "dialect").bind dialect?) m.window
  | .run =>
    if m.has "unrestricted" && (m.has "customer" || m.has "case") then none
    else
      return .run file (m.value? "db") m.window (m.has "unrestricted") (m.ids "customer")
        (m.ids "case")
  | .validate => return .validate file

/-- The help of a command, or of the program. -/
def helpOn? : List String → Option String
  | [] => some programHelp
  | [name] =>
      if name = "help" then some helpHelp else (Verb.all.find? (·.name == name)).map Verb.help
  | _ => none

/-- What the arguments ask for; nothing if they are mistaken. -/
def invocation? : List String → Option Invocation
  | [] => none
  | arg :: rest =>
    if arg = "help" then (helpOn? rest).map .print
    else if arg = "--help" then some (.print programHelp)
    else if arg = "--version" then some (.print (unlines [programName ++ " " ++ version]))
    else
      match arg.toList with
      | '-' :: 'h' :: _ => some (.print programHelp)
      | '-' :: 'V' :: _ => some (.print (unlines [programName ++ " " ++ version]))
      | _ => do
        let v ← Verb.all.find? (·.name == arg)
        match scan v.flags false {} rest with
        | .ok m => m.invocation? v
        | .error .help => return .print v.help
        | .error .mistake => none

end IncidentBoard.Command
