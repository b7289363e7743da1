import IncidentBoard.Host
import IncidentBoard.Text.Letter

/-! References to variables within a text. -/
namespace IncidentBoard.Settings

/-- A character that stands for itself, or a variable that its value takes the place of. -/
inductive Piece
  | char (c : Char)
  | reference (name : String)
  deriving DecidableEq, Repr

def isNameChar (c : Char) : Bool := Text.isAlphanumeric c || c == '_'

/-- After a dollar sign, a name in braces lasts to the closing brace or, without one, to the end of
the text; a bare name lasts as long as its characters do. A dollar sign without a name stands for
itself. -/
def pieces : List Char → List Piece
  | [] => []
  | c :: rest =>
    if c = '$' then
      if rest.head? = some '\x7b' then
        .reference (String.ofList (rest.tail.takeWhile (· ≠ '\x7d'))) ::
          pieces ((rest.tail.dropWhile (· ≠ '\x7d')).drop 1)
      else
        let name := rest.takeWhile isNameChar
        if name.isEmpty then .char c :: pieces rest
        else .reference (String.ofList name) :: pieces (rest.dropWhile isNameChar)
    else .char c :: pieces rest
termination_by cs => cs.length
decreasing_by
  · have h := (List.dropWhile_sublist (fun x => decide (x ≠ '\x7d')) (l := rest.tail)).length_le
    simp only [List.length_drop, List.length_cons, List.length_tail] at *
    omega
  · simp
  · have h := (List.dropWhile_sublist isNameChar (l := rest)).length_le
    simp only [List.length_cons]
    omega
  · simp

def Piece.name? : Piece → Option String
  | .char _ => none
  | .reference name => some name

/-- The variables that a text refers to. -/
def variablesIn (s : String) : List String := (pieces s.toList).filterMap Piece.name?

/-- The text of pieces; values are not looked into. The first variable that is not set is the
error. -/
def fill (env : Environment) : List Piece → Except String (List Char)
  | [] => .ok []
  | .char c :: rest => (fill env rest).map (c :: ·)
  | .reference name :: rest =>
    match env name with
    | none => .error name
    | some value => (fill env rest).map (value.toList ++ ·)

/-- The text with every reference replaced, or the variable that is missing. -/
def expand (env : Environment) (s : String) : Except String String :=
  (fill env (pieces s.toList)).map String.ofList

end IncidentBoard.Settings
