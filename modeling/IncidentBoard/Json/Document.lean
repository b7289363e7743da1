import IncidentBoard.Json.Basic
import IncidentBoard.Text.Digit
import IncidentBoard.Word

/-! JSON texts: a document keeps what is written, also what no value can hold. -/
namespace IncidentBoard

/-- `unreadable` stands for a well-formed piece of text without a value: a number past the largest
double, half of a surrogate pair, nesting past the limit. Keys of an object may repeat. -/
inductive Document
  | null
  | bool (b : Bool)
  | int (n : Int)
  | float (x : Float)
  | str (s : String)
  | arr (items : List Document)
  | obj (members : List (Option String × Document))
  | unreadable
  deriving Inhabited

namespace Document

mutual

def ofJson : Json → Document
  | .null => .null
  | .bool b => .bool b
  | .int n => .int n
  | .float x => .float x
  | .str s => .str s
  | .arr items => .arr (ofItems items)
  | .obj members => .obj (ofMembers members)

def ofItems : List Json → List Document
  | [] => []
  | j :: rest => ofJson j :: ofItems rest

def ofMembers : List (String × Json) → List (Option String × Document)
  | [] => []
  | (key, j) :: rest => (some key, ofJson j) :: ofMembers rest

end

mutual

/-- The value of a document, in which the last of equal keys counts. -/
def value? : Document → Option Json
  | .null => some .null
  | .bool b => some (.bool b)
  | .int n => some (.int n)
  | .float x => some (.float x)
  | .str s => some (.str s)
  | .arr items => (itemValues? items).map .arr
  | .obj members => (memberValues? members).map Json.ofMembers
  | .unreadable => none

def itemValues? : List Document → Option (List Json)
  | [] => some []
  | d :: rest => do
    let j ← d.value?
    let js ← itemValues? rest
    return j :: js

def memberValues? : List (Option String × Document) → Option (List (String × Json))
  | [] => some []
  | (key, d) :: rest => do
    let key ← key
    let j ← d.value?
    let js ← memberValues? rest
    return (key, j) :: js

end

/-! Numbers. -/

/-- Powers of ten are exact or nearest up to this exponent. -/
def maxPower : Nat := 308

/-- Scales by powers of ten, one rounding a step; `none` past the largest double. -/
def scale? : Nat → Float → Int → Option Float
  | 0, x, _ => some x
  | fuel + 1, x, exponent =>
    if exponent.natAbs ≤ maxPower then
      let power := Float.ofScientific 1 false exponent.natAbs
      let y := if 0 ≤ exponent then x * power else x / power
      if y.isFinite then some y else none
    else if x == 0 then some x
    else if 0 ≤ exponent then none
    else scale? fuel (x / Float.ofScientific 1 false maxPower) (exponent + maxPower)

/-- After three steps down the largest significand is zero. -/
def scaled? (negative : Bool) (significand : Nat) (exponent : Int) : Option Float :=
  (scale? 3 (Float.ofNat significand) exponent).map fun x => if negative then -x else x

/-- Digits join the significand as long as it fits 64 bits; the others only move the point. -/
def significand : List Nat → Nat → Nat × List Nat
  | [], n => (n, [])
  | d :: ds, n => if n * 10 + d < Word.count then significand ds (n * 10 + d) else (n, d :: ds)

/-- A run of digits and the text after it. -/
def digitRun : List Char → List Nat × List Char
  | [] => ([], [])
  | c :: cs =>
    match Text.digitValue? c with
    | some d => let (ds, rest) := digitRun cs; (d :: ds, rest)
    | none => ([], c :: cs)

/-- The parts of a written number. -/
structure Numeral where
  negative : Bool
  whole : List Nat
  places : Option (List Nat)
  exponent : Option (Bool × List Nat)

/-- Digits in front, without a needless zero, then perhaps a point and digits, then perhaps an
exponent. -/
def numeral? (cs : List Char) : Option (Numeral × List Char) := do
  let (negative, cs) := match cs with
    | '-' :: rest => (true, rest)
    | _ => (false, cs)
  let (whole, cs) := digitRun cs
  if whole.isEmpty || (whole.head? == some 0 && whole.length != 1) then none
  let (places, cs) ← match cs with
    | '.' :: rest =>
      let (ds, rest) := digitRun rest
      if ds.isEmpty then none else some (some ds, rest)
    | _ => some (none, cs)
  let (exponent, cs) ← match cs with
    | c :: rest =>
      if c = 'e' ∨ c = 'E' then
        let (down, rest) := match rest with
          | '-' :: rest => (true, rest)
          | '+' :: rest => (false, rest)
          | _ => (false, rest)
        let (ds, rest) := digitRun rest
        if ds.isEmpty then none else some (some (down, ds), rest)
      else some (none, cs)
    | [] => some (none, cs)
  return (⟨negative, whole, places, exponent⟩, cs)

def natOfDigits (ds : List Nat) : Nat := ds.foldl (fun n d => 10 * n + d) 0

/-- Exponents of ten beyond this are as good as infinite. -/
def farExponent : Nat := 2147483647

def Numeral.float (n : Numeral) : Document :=
  let (s, dropped) := significand n.whole 0
  let (s, exponent) : Nat × Int :=
    match n.places with
    | none => (s, dropped.length)
    | some ds =>
      let (t, left) := significand ds s
      (t, (dropped.length : Int) - (ds.length - left.length : Nat))
  match n.exponent with
  | none => (scaled? n.negative s exponent).elim .unreadable .float
  | some (down, ds) =>
    let e := natOfDigits ds
    if farExponent < e then
      if s = 0 ∨ down then .float (if n.negative then -0.0 else 0.0) else .unreadable
    else
      (scaled? n.negative s (if down then exponent - e else exponent + e)).elim .unreadable .float

/-- Integers of 64 bits, signed or not, stay integers; a negative zero does not. -/
def Numeral.document (n : Numeral) : Document :=
  match n.places, n.exponent with
  | none, none =>
    let i := natOfDigits n.whole
    if n.negative then
      if 0 < i && Word.isSigned (-(i : Int)) then .int (-(i : Int)) else n.float
    else if Word.isUnsigned i then .int i else n.float
  | _, _ => n.float

/-! Strings. -/

def hex4? (a b c d : Char) : Option Nat := do
  return (((← Text.hexValue? a) * 16 + (← Text.hexValue? b)) * 16 + (← Text.hexValue? c)) * 16 +
    (← Text.hexValue? d)

def shortEscape? : Char → Option Char
  | '"' => some '"'
  | '\\' => some '\\'
  | '/' => some '/'
  | 'b' => some '\x08'
  | 'f' => some '\x0c'
  | 'n' => some '\n'
  | 'r' => some '\r'
  | 't' => some '\t'
  | _ => none

/-- The code units after an opening quote, up to the closing one. -/
def units? : List Char → Option (List Nat × List Char)
  | [] => none
  | '"' :: rest => some ([], rest)
  | '\\' :: 'u' :: a :: b :: c :: d :: rest => do
    let n ← hex4? a b c d
    let (ns, rest) ← units? rest
    return (n :: ns, rest)
  | '\\' :: e :: rest => do
    let c ← shortEscape? e
    let (ns, rest) ← units? rest
    return (c.toNat :: ns, rest)
  | c :: rest =>
    if c.toNat < 0x20 ∨ c = '\\' then none
    else do
      let (ns, rest) ← units? rest
      return (c.toNat :: ns, rest)

def isHighSurrogate (n : Nat) : Bool := 0xd800 ≤ n && n < 0xdc00

def isLowSurrogate (n : Nat) : Bool := 0xdc00 ≤ n && n < 0xe000

/-- Joins surrogate pairs; half a pair stands for no character. -/
def joinUnits? : List Nat → Option (List Char)
  | [] => some []
  | n :: m :: rest =>
    if isHighSurrogate n then
      if isLowSurrogate m then
        (joinUnits? rest).map (Char.ofNat (0x10000 + (n - 0xd800) * 0x400 + (m - 0xdc00)) :: ·)
      else none
    else if isLowSurrogate n then none
    else (joinUnits? (m :: rest)).map (Char.ofNat n :: ·)
  | [n] => if isHighSurrogate n || isLowSurrogate n then none else some [Char.ofNat n]

/-- A string after its opening quote. -/
def string? (cs : List Char) : Option (Option String × List Char) :=
  (units? cs).map fun (ns, rest) => ((joinUnits? ns).map String.ofList, rest)

/-! Documents. -/

def skipBlanks (cs : List Char) : List Char :=
  cs.dropWhile fun c => c = ' ' ∨ c = '\n' ∨ c = '\t' ∨ c = '\r'

def keyword? (word : List Char) (d : Document) (cs : List Char) : Option (Document × List Char) :=
  if word.isPrefixOf cs then some (d, cs.drop word.length) else none

mutual

/-- One value and the text after it. Every step of `fuel` uses up a character; containers deeper
than `room` are skipped over. -/
def parseValue (room : Nat) : Nat → List Char → Option (Document × List Char)
  | 0, _ => none
  | fuel + 1, cs =>
    match skipBlanks cs with
    | 'n' :: rest => keyword? "ull".toList .null rest
    | 't' :: rest => keyword? "rue".toList (.bool true) rest
    | 'f' :: rest => keyword? "alse".toList (.bool false) rest
    | '"' :: rest => (string? rest).map fun (s, rest) => (s.elim .unreadable .str, rest)
    | '[' :: rest => do
      let (items, rest) ← match skipBlanks rest with
        | ']' :: rest => some ([], rest)
        | rest => parseItems (room - 1) fuel rest
      return (if room = 0 then .unreadable else .arr items, rest)
    | '\x7b' :: rest => do
      let (members, rest) ← match skipBlanks rest with
        | '\x7d' :: rest => some ([], rest)
        | rest => parseMembers (room - 1) fuel rest
      return (if room = 0 then .unreadable else .obj members, rest)
    | rest => (numeral? rest).map fun (n, rest) => (n.document, rest)

/-- At least one value, up to the closing bracket. -/
def parseItems (room : Nat) : Nat → List Char → Option (List Document × List Char)
  | 0, _ => none
  | fuel + 1, cs => do
    let (d, rest) ← parseValue room fuel cs
    match skipBlanks rest with
    | ',' :: rest =>
      let (ds, rest) ← parseItems room fuel rest
      return (d :: ds, rest)
    | ']' :: rest => return ([d], rest)
    | _ => none

/-- At least one member, up to the closing brace. -/
def parseMembers (room : Nat) :
    Nat → List Char → Option (List (Option String × Document) × List Char)
  | 0, _ => none
  | fuel + 1, cs =>
    match skipBlanks cs with
    | '"' :: rest => do
      let (key, rest) ← string? rest
      match skipBlanks rest with
      | ':' :: rest =>
        let (d, rest) ← parseValue room fuel rest
        match skipBlanks rest with
        | ',' :: rest =>
          let (ds, rest) ← parseMembers room fuel rest
          return ((key, d) :: ds, rest)
        | '\x7d' :: rest => return ([(key, d)], rest)
        | _ => none
      | _ => none
    | _ => none

end

/-- Containers nest at most this deep. -/
def maxDepth : Nat := 127

/-- The document that is the whole text. -/
def parse? (s : String) : Option Document :=
  let cs := s.toList
  match parseValue maxDepth (2 * cs.length + 2) cs with
  | some (d, rest) => if (skipBlanks rest).isEmpty then some d else none
  | none => none

/-! Records. -/

/-- The values of named fields: from an object, where each may stand once and other keys are
ignored, or from a list in the order of the names, which may end early. -/
def fields? (names : List String) : Document → Option (String → Option Document)
  | .obj members => do
    let known ← members.mapM fun (key, d) => key.map fun k => (k, d)
    let known := known.filter fun (k, _) => names.contains k
    if (known.map Prod.fst).Nodup then some (known.lookup ·) else none
  | .arr items => if items.length ≤ names.length then some ((names.zip items).lookup ·) else none
  | _ => none

def asString? : Document → Option String
  | .str s => some s
  | _ => none

def list? {α : Type} (read : Document → Option α) : Document → Option (List α)
  | .arr items => items.mapM read
  | _ => none

/-- An absent field and a null one are both nothing. -/
def optional {α : Type} (read : Document → Option α) : Option Document → Option (Option α)
  | none | some .null => some none
  | some d => (read d).map some

def withDefault {α : Type} (default : α) (read : Document → Option α) : Option Document → Option α
  | none => some default
  | some d => read d

/-- A name by itself, or as the only key of an object with a null. -/
def name? : Document → Option String
  | .str s => some s
  | .obj [(some s, .null)] => some s
  | _ => none

end Document

end IncidentBoard
