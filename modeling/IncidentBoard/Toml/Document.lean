import IncidentBoard.Toml.Scalar

/-! TOML documents. -/
namespace IncidentBoard.Toml

def skipSpaces (cs : List Char) : List Char := cs.dropWhile fun c => c = ' ' ∨ c = '\t'

/-- Past spaces, line ends and comments. A line ends with a line feed, or with a carriage return in
front of one. -/
def skipLines? (inComment : Bool) : List Char → Option (List Char)
  | [] => some []
  | '\r' :: '\n' :: rest => skipLines? false rest
  | c :: rest =>
    if c = '\n' then skipLines? false rest
    else if inComment then if isPlain c then skipLines? true rest else none
    else if c = '#' then skipLines? true rest
    else if c = ' ' ∨ c = '\t' then skipLines? false rest
    else some (c :: rest)

/-- Past the end of a line, before which only spaces and a comment may stand. -/
def endLine? (inComment : Bool) : List Char → Option (List Char)
  | [] => some []
  | '\r' :: '\n' :: rest => some rest
  | c :: rest =>
    if c = '\n' then some rest
    else if inComment then if isPlain c then endLine? true rest else none
    else if c = '#' then endLine? true rest
    else if c = ' ' ∨ c = '\t' then endLine? false rest
    else none

def isKeyChar (c : Char) : Bool := c.isAlphanum || c == '-' || c == '_'

def simpleKey? : List Char → Option (String × List Char)
  | '"' :: rest => lineString? '"' rest
  | '\'' :: rest => lineString? '\'' rest
  | cs =>
    let (name, rest) := cs.span isKeyChar
    if name.isEmpty then none else some (String.ofList name, rest)

/-- At most so many names with dots between them, and the text after the spaces that follow. -/
def key? : Nat → List Char → Option (Key × List Char)
  | 0, _ => none
  | more + 1, cs => do
    let (name, rest) ← simpleKey? (skipSpaces cs)
    match skipSpaces rest with
    | '.' :: rest =>
      let (k, rest) ← key? more rest
      return (⟨name :: k.path, k.name⟩, rest)
    | rest => return (⟨[], name⟩, rest)

/-- Arrays and tables written in place nest at most this deep, and keys have at most so many
names. -/
def maxDepth : Nat := 80

def keyOf? (cs : List Char) : Option (Key × List Char) := key? maxDepth cs

mutual

/-- One value and the text after it. Every step of `fuel` uses up a character; `room` bounds the
nesting. -/
def value? (room : Nat) : Nat → List Char → Option (Value × List Char)
  | 0, _ => none
  | fuel + 1, cs =>
    match cs with
    | '"' :: '"' :: '"' :: rest => (blockString? '"' rest).map fun (s, rest) => (.str s, rest)
    | '\'' :: '\'' :: '\'' :: rest => (blockString? '\'' rest).map fun (s, rest) => (.str s, rest)
    | '"' :: rest => (lineString? '"' rest).map fun (s, rest) => (.str s, rest)
    | '\'' :: rest => (lineString? '\'' rest).map fun (s, rest) => (.str s, rest)
    | '[' :: rest => do
      if room = 0 then none
      let (items, rest) ← items? (room - 1) fuel rest
      return (.array .inline items, rest)
    | '\x7b' :: rest => do
      if room = 0 then none
      let (entries, rest) ← entries? (room - 1) fuel rest
      return (← inlineTable entries, rest)
    | _ => do
      let (run, rest) := bareRun cs
      return (← bareValue? run, rest)

/-- Values with commas between them, up to the closing bracket; a comma may stand before it. -/
def items? (room : Nat) : Nat → List Char → Option (List Value × List Char)
  | 0, _ => none
  | fuel + 1, cs => do
    match ← skipLines? false cs with
    | ']' :: rest => return ([], rest)
    | cs =>
      let (v, rest) ← value? room fuel cs
      match ← skipLines? false rest with
      | ',' :: rest =>
        let (vs, rest) ← items? room fuel rest
        return (v :: vs, rest)
      | ']' :: rest => return ([v], rest)
      | _ => none

/-- Keys and values with commas between them, up to the closing brace; a comma may stand before it.
Lines may end anywhere but within a key or a value. -/
def entries? (room : Nat) : Nat → List Char → Option (List (Key × Value) × List Char)
  | 0, _ => none
  | fuel + 1, cs => do
    match ← skipLines? false cs with
    | '\x7d' :: rest => return ([], rest)
    | cs =>
      let (k, rest) ← keyOf? cs
      match ← skipLines? false rest with
      | '=' :: rest =>
        let (v, rest) ← value? room fuel (← skipLines? false rest)
        match ← skipLines? false rest with
        | ',' :: rest =>
          let (es, rest) ← entries? room fuel rest
          return ((k, v) :: es, rest)
        | '\x7d' :: rest => return ([(k, v)], rest)
        | _ => none
      | _ => none

end

/-- One statement and the lines after it. -/
def statement? (cs : List Char) : Option (Statement × List Char) :=
  match cs with
  | '[' :: '[' :: rest => do
    let (k, rest) ← keyOf? rest
    match rest with
    | ']' :: ']' :: rest => return (.item k, ← endLine? false rest)
    | _ => none
  | '[' :: rest => do
    let (k, rest) ← keyOf? rest
    match rest with
    | ']' :: rest => return (.table k, ← endLine? false rest)
    | _ => none
  | _ => do
    let (k, rest) ← keyOf? cs
    match rest with
    | '=' :: rest =>
      let (v, rest) ← value? maxDepth (2 * rest.length + 2) (skipSpaces rest)
      return (.entry k v, ← endLine? false rest)
    | _ => none

def statements? : Nat → List Char → Option (List Statement)
  | 0, _ => none
  | fuel + 1, cs => do
    match ← skipLines? false cs with
    | [] => return []
    | cs =>
      let (s, rest) ← statement? cs
      return s :: (← statements? fuel rest)

/-- The top table of a document. -/
def parse? (s : String) : Option Value := do
  let cs := match s.toList with
    | '\ufeff' :: rest => rest
    | cs => cs
  let ss ← statements? (cs.length + 1) cs
  return .table .header (← build [] ss [])

end IncidentBoard.Toml
