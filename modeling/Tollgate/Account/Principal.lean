import Tollgate.Trace
import Tollgate.Json.Equivalence

namespace Tollgate

structure Principal where
  subject : Json
  authorities : List Text
deriving DecidableEq

def Principal.hasAuthority (principal : Principal) (authority : Text) : Bool :=
  principal.authorities.elem authority

def Principal.isEquivalent (principal other : Principal) : Bool :=
  principal.subject.isEquivalent other.subject && principal.authorities = other.authorities

/-- Holds a principal once one is authenticated; belongs to one request, and knows its number. -/
structure SecurityContext where
  request : Nat
  principal : Option Principal
deriving DecidableEq

namespace SecurityContext

def empty (request : Nat) : SecurityContext := ⟨request, none⟩

def isAuthenticated (context : SecurityContext) : Bool := context.principal.isSome

def authenticate (context : SecurityContext) (principal : Principal) : SecurityContext :=
  { context with principal := some principal }

def clear (context : SecurityContext) : SecurityContext := { context with principal := none }

def current (context : SecurityContext) : Except Fault Principal :=
  match context.principal with
  | some principal => .ok principal
  | none => .error (.api .authenticationRequired none)

end SecurityContext

end Tollgate
