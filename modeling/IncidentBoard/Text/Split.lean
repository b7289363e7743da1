/-! Texts cut at a character. -/
namespace IncidentBoard.Text

/-- The parts between the places of a character; there is always a first part. -/
def splitAtEvery (c : Char) : List Char → List (List Char)
  | [] => [[]]
  | d :: rest =>
    if d = c then [] :: splitAtEvery c rest
    else match splitAtEvery c rest with
      | [] => [[d]]
      | part :: parts => (d :: part) :: parts

end IncidentBoard.Text
