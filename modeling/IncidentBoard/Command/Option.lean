import IncidentBoard.Decimal.Numeral
import IncidentBoard.Sql.Token

/-! The commands, their options and their help texts. -/
namespace IncidentBoard.Command

/-- An option without a placeholder takes no value. -/
structure Flag where
  long : String
  short : Option Char := none
  placeholder : Option String := none
  repeats : Bool := false
  accepts : String → Bool := fun _ => true
  help : String

def dialects : List Sql.Dialect := [.sqlite, .postgres]

def dialect? (s : String) : Option Sql.Dialect := dialects.find? (·.name == s)

/-- An id of 64 bits. -/
def id? (s : String) : Option Int :=
  Decimal.readInt64? s.toList

inductive Verb
  | compile | run | validate
  deriving DecidableEq, Repr

namespace Verb

def all : List Verb := [.compile, .run, .validate]

def name : Verb → String
  | .compile => "compile"
  | .run => "run"
  | .validate => "validate"

def about : Verb → String
  | .compile => "Compile a widget definition to SQL and print its bound parameters"
  | .run => "Run a widget against a SQLite database and print its payload"
  | .validate => "Validate a widget definition without running it"

def windowFlags : List Flag :=
  [{ long := "start"
     placeholder := some "START"
     help := "Inclusive window start (e.g. 2024-01-01 or 2024-01-01T08:00:00)" },
   { long := "end"
     placeholder := some "END"
     help := "Inclusive window end; a bare date includes the whole day" }]

def flags : Verb → List Flag
  | .compile =>
    { long := "dialect"
      short := some 'd'
      placeholder := some "DIALECT"
      accepts := fun s => (dialect? s).isSome
      help := "SQL dialect to generate (defaults to the configured dialect) [possible values: "
        ++ ", ".intercalate (dialects.map (·.name)) ++ "]" } :: windowFlags
  | .run =>
    { long := "db"
      placeholder := some "DB"
      accepts := (· ≠ "")
      help := "SQLite database file (defaults to the configured store path)" } :: windowFlags ++
    [{ long := "unrestricted"
       help := "Run without a row-level scope" },
     { long := "customer"
       placeholder := some "CUSTOMER"
       repeats := true
       accepts := fun s => (id? s).isSome
       help := "Visible customer id (repeatable)" },
     { long := "case"
       placeholder := some "CASE"
       repeats := true
       accepts := fun s => (id? s).isSome
       help := "Visible case id (repeatable)" }]
  | .validate => []

end Verb

/-! Help. -/

def programName : String := "lookout"

def version : String := "0.1.0"

/-- A label, filled up to the width, and what it stands for. -/
def helpLine (width : Nat) (entry : String × String) : String :=
  "  " ++ entry.1 ++ String.ofList (List.replicate (width - entry.1.length) ' ') ++ "  " ++ entry.2

def helpBlock (title : String) (entries : List (String × String)) : List String :=
  let width := (entries.map (·.1.length)).foldl max 0
  "" :: title :: entries.map (helpLine width)

def Flag.label (f : Flag) : String :=
  (match f.short with
    | some c => String.ofList ['-', c, ',', ' ']
    | none => "    ") ++ "--" ++ f.long ++
  (match f.placeholder with
    | some name => " <" ++ name ++ ">"
    | none => "")

def unlines (lines : List String) : String := String.join (lines.map (· ++ "\n"))

def helpFlag : String × String := ("-h, --help", "Print help")

def Verb.help (v : Verb) : String :=
  unlines ([v.about, "", "Usage: " ++ programName ++ " " ++ v.name
      ++ (if v.flags.isEmpty then "" else " [OPTIONS]") ++ " <FILE>"]
    ++ helpBlock "Arguments:" [("<FILE>", "Path to the widget JSON file")]
    ++ helpBlock "Options:" (v.flags.map (fun f => (f.label, f.help)) ++ [helpFlag]))

def helpAbout : String := "Print this message or the help of the given subcommand(s)"

def programHelp : String :=
  unlines (["Lookout - compile dashboard widgets to scoped aggregate SQL", "",
      "Usage: " ++ programName ++ " <COMMAND>"]
    ++ helpBlock "Commands:" (Verb.all.map (fun v => (v.name, v.about)) ++ [("help", helpAbout)])
    ++ helpBlock "Options:" [helpFlag, ("-V, --version", "Print version")])

def helpHelp : String :=
  unlines ([helpAbout, "", "Usage: " ++ programName ++ " help [COMMAND]..."]
    ++ helpBlock "Arguments:" [("[COMMAND]...", "Print help for the subcommand(s)")])

end IncidentBoard.Command
