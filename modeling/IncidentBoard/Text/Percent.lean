import IncidentBoard.Text.Digit
import IncidentBoard.Text.Utf8

/-! Texts in which bytes may be written as a percent sign and two hexadecimal digits. -/
namespace IncidentBoard.Text.Percent

/-- A percent sign without two digits after it stands for itself. -/
def bytes : List Char → List UInt8
  | [] => []
  | '%' :: a :: b :: rest =>
    match hexValue? a, hexValue? b with
    | some x, some y => UInt8.ofNat (16 * x + y) :: bytes rest
    | _, _ => String.utf8EncodeChar '%' ++ bytes (a :: b :: rest)
  | c :: rest => String.utf8EncodeChar c ++ bytes rest

/-- The text up to the first zero byte. Bytes that are no text stand for the characters of their
numbers. -/
def decode (cs : List Char) : String :=
  let bs := (bytes cs).takeWhile (· ≠ 0)
  match Utf8.decode bs with
  | .ok s => s
  | .error _ => String.ofList (bs.map fun b => Char.ofNat b.toNat)

end IncidentBoard.Text.Percent
