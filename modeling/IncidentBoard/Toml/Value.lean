/-! TOML values and the tables that a document builds. -/
namespace IncidentBoard.Toml

/-- What brought a table or an array about: a value written in place, its own header, the header of
a table below it, or a dotted key. -/
inductive Origin
  | inline | header | implied | dotted
  deriving DecidableEq, Repr

/-- Floats and moments are kept without their value: no setting has one. A number that is out of
range may be written, but not read. -/
inductive Value
  | str (s : String)
  | int (n : Int)
  | bool (b : Bool)
  | float
  | moment
  | outOfRange
  | array (origin : Origin) (items : List Value)
  | table (origin : Origin) (members : List (String × Value))
  deriving Inhabited

namespace Value

mutual

/-- Nothing in the value is out of range. -/
def isReadable : Value → Bool
  | .outOfRange => false
  | .array _ items => areReadable items
  | .table _ members => membersReadable members
  | _ => true

def areReadable : List Value → Bool
  | [] => true
  | v :: vs => v.isReadable && areReadable vs

def membersReadable : List (String × Value) → Bool
  | [] => true
  | (_, v) :: rest => v.isReadable && membersReadable rest

end

end Value

abbrev Members := List (String × Value)

/-- A key with the keys before its dots. -/
structure Key where
  path : List String
  name : String
  deriving DecidableEq, Repr

def Key.names (k : Key) : List String := k.path ++ [k.name]

namespace Members

/-- Sets the value of a key. -/
def put (key : String) (v : Value) : Members → Members
  | [] => [(key, v)]
  | (k, u) :: rest => if k = key then (k, v) :: rest else (k, u) :: put key v rest

/-- A table by its origin and members. -/
abbrev Change := Origin → Members → Option Value

/-- Changes the table at the end of a path. Tables on the way that are missing are made; of an array
that headers built, the last table counts. A dotted key does not reach into a table with a
header. -/
def changeAt (made : Origin) (change : Change) : List String → Change
  | [], origin, members => change origin members
  | key :: path, origin, members => do
    let v ← match members.lookup key with
      | none => changeAt made change path made []
      | some (.table o ms) =>
        if o = .inline ∨ (made = .dotted ∧ o = .header) then none
        else changeAt made change path o ms
      | some (.array .header items) =>
        match items.getLast? with
        | some (.table o ms) =>
          (changeAt made change path o ms).map fun v => .array .header (items.dropLast ++ [v])
        | _ => none
      | some _ => none
    return .table origin (put key v members)

/-- A table that dotted keys made takes dotted keys only, and any other table plain ones only. -/
def insertNew (dotted : Bool) (key : String) (v : Value) : Change := fun origin members =>
  if (origin == .dotted) != dotted || (members.lookup key).isSome then none
  else some (.table origin (put key v members))

def addEntry (k : Key) (v : Value) : Change :=
  changeAt .dotted (insertNew (!k.path.isEmpty) k.name v) k.path

/-- A header opens a new table, or one that so far was only implied. -/
def openTable (key : String) : Change := fun origin members =>
  match members.lookup key with
  | none => some (.table origin (put key (.table .header []) members))
  | some (.table .implied ms) => some (.table origin (put key (.table .header ms) members))
  | some _ => none

/-- A doubled header adds a table to its array. -/
def openItem (key : String) : Change := fun origin members =>
  let added (items : List Value) : Option Value :=
    some (.table origin (put key (.array .header (items ++ [.table .header []])) members))
  match members.lookup key with
  | none => added []
  | some (.array .header items) => added items
  | some _ => none

end Members

/-- A line of a document, or several if its value spans them. -/
inductive Statement
  | entry (key : Key) (value : Value)
  | table (key : Key)
  | item (key : Key)

/-- Runs the statements below the table that the last header opened. -/
def build (current : List String) : List Statement → Members → Option Members
  | [], root => some root
  | s :: rest, root =>
    let step (path : List String) (change : Members.Change) (next : List String) :
        Option Members := do
      match ← Members.changeAt .implied change path .header root with
      | .table _ root => build next rest root
      | _ => none
    match s with
    | .entry k v => step current (Members.addEntry k v) current
    | .table k => step k.path (Members.openTable k.name) k.names
    | .item k => step k.path (Members.openItem k.name) k.names

/-- The members of a table written in place. -/
def inlineTable (entries : List (Key × Value)) : Option Value := do
  match ← entries.foldlM (fun v (k, u) =>
      match v with
      | .table origin members => Members.addEntry k u origin members
      | _ => none) (Value.table .inline []) with
  | v@(.table _ _) => return v
  | _ => none

end IncidentBoard.Toml
