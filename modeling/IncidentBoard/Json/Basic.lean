import IncidentBoard.Decimal.Style
import IncidentBoard.Keyed

/-! JSON values and their compact text. -/
namespace IncidentBoard

/-- Integers keep their own kind; every other number is a double. -/
inductive Json
  | null
  | bool (b : Bool)
  | int (n : Int)
  | float (x : Float)
  | str (s : String)
  | arr (items : List Json)
  | obj (members : List (String × Json))
  deriving Inhabited

namespace Json

/-- An object whose keys ascend; the last of two values for a key stays. -/
def ofMembers (members : List (String × Json)) : Json := .obj (Keyed.ofList members).entries

def ofKeyed {α : Type} (f : α → Json) (m : Keyed α) : Json :=
  .obj (m.entries.map fun (key, a) => (key, f a))

def ofOption {α : Type} (f : α → Json) : Option α → Json
  | none => .null
  | some a => f a

def hex4 (n : Nat) : List Char :=
  let ds := Nat.toDigits 16 n
  List.replicate (4 - ds.length) '0' ++ ds

def escapedChar (c : Char) : List Char :=
  if c = '"' then ['\\', '"']
  else if c = '\\' then ['\\', '\\']
  else if c = '\n' then ['\\', 'n']
  else if c = '\t' then ['\\', 't']
  else if c = '\r' then ['\\', 'r']
  else if c = '\x08' then ['\\', 'b']
  else if c = '\x0c' then ['\\', 'f']
  else if c.toNat < 0x20 then '\\' :: 'u' :: hex4 c.toNat
  else [c]

def stringText (s : String) : String :=
  "\"" ++ String.ofList (s.toList.flatMap escapedChar) ++ "\""

/-- Infinities and NaN have no number in JSON. -/
def floatText (x : Float) : String := (Decimal.Style.json.render? x).getD "null"

mutual

def text : Json → String
  | .null => "null"
  | .bool b => if b then "true" else "false"
  | .int n => toString n
  | .float x => floatText x
  | .str s => stringText s
  | .arr items => "[" ++ ",".intercalate (itemTexts items) ++ "]"
  | .obj members => "\x7b" ++ ",".intercalate (memberTexts members) ++ "\x7d"

def itemTexts : List Json → List String
  | [] => []
  | j :: rest => j.text :: itemTexts rest

def memberTexts : List (String × Json) → List String
  | [] => []
  | (key, j) :: rest => (stringText key ++ ":" ++ j.text) :: memberTexts rest

end

/-- Parts on lines of their own, two spaces further in than the brackets around them. -/
def block (indent : String) (opening closing : String) (parts : List String) : String :=
  if parts.isEmpty then opening ++ closing
  else
    opening ++ ",".intercalate (parts.map fun part => "\n  " ++ indent ++ part) ++ "\n" ++
      indent ++ closing

mutual

/-- The text over several lines; `indent` stands in front of each but the first. -/
def layout (indent : String) : Json → String
  | .arr items => block indent "[" "]" (itemLayouts (indent ++ "  ") items)
  | .obj members => block indent "\x7b" "\x7d" (memberLayouts (indent ++ "  ") members)
  | .null => text .null
  | .bool b => text (.bool b)
  | .int n => text (.int n)
  | .float x => text (.float x)
  | .str s => text (.str s)

def itemLayouts (indent : String) : List Json → List String
  | [] => []
  | j :: rest => j.layout indent :: itemLayouts indent rest

def memberLayouts (indent : String) : List (String × Json) → List String
  | [] => []
  | (key, j) :: rest => (stringText key ++ ": " ++ j.layout indent) :: memberLayouts indent rest

end

end Json

end IncidentBoard
