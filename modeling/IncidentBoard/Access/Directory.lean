import IncidentBoard.Access.Scope

/-! Where the scopes of principals come from. -/
namespace IncidentBoard.Access

inductive LookupError
  | unknownPrincipal (principal : String)
  | failed (reason : String)
  deriving DecidableEq

def LookupError.message : LookupError → String
  | .unknownPrincipal principal => "Unknown principal: " ++ principal
  | .failed reason => "Access lookup failed: " ++ reason

/-- Answers which scope a principal has. -/
abbrev Lookup := String → Except LookupError Scope

/-- A principal whose scope cannot be looked up sees nothing. -/
def resolve (lookup : Lookup) (principal : String) : Scope :=
  match lookup principal with
  | .ok s => s
  | .error _ => .denyAll

/-- Granted scopes, the latest in front. -/
structure Directory where
  grants : List (String × Scope) := []

namespace Directory

/-- Replaces what the principal was granted before. -/
def grant (d : Directory) (principal : String) (s : Scope) : Directory :=
  ⟨(principal, s) :: d.grants⟩

def lookup (d : Directory) : Lookup := fun principal =>
  match d.grants.lookup principal with
  | some s => .ok s
  | none => .error (.unknownPrincipal principal)

end Directory

/-- A directory that cannot be reached. -/
def offline (reason : String) : Lookup := fun _ => .error (.failed reason)

end IncidentBoard.Access
