/-! Sets of code points, given by the sorted ends of their spans. -/
namespace IncidentBoard.Text

/-- Whether `n` lies in one of the half-open spans `[e₀, e₁)`, `[e₂, e₃)`, … of a sorted list of
ends. -/
def inSpans : List Nat → Nat → Bool
  | lo :: hi :: rest, n => if n < lo then false else n < hi || inSpans rest n
  | _, _ => false

end IncidentBoard.Text
