/-! Numbers that fit into 64 bits. -/
namespace IncidentBoard.Word

/-- 2 to the power of 64. -/
def count : Nat := 18446744073709551616

def isSigned (n : Int) : Bool := -9223372036854775808 ≤ n && n ≤ 9223372036854775807

def isUnsigned (n : Int) : Bool := 0 ≤ n && n ≤ 18446744073709551615

end IncidentBoard.Word
