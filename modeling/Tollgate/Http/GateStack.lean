import Tollgate.Http.Application

namespace Tollgate.GateStack

def keys : Handler := fun request => do
  Traced.emit (.handled (request.context.map (·.request)))
  let subject := (request.securityContext.principal.map (·.subject)).getD .null
  Handler.plainAnswer (.object [(Text.lit "subject", subject)])

def routes : List Route :=
  [⟨"GET", "/keys", keys⟩, ⟨"GET", "/me", Handler.whoAmI Handler.plainAnswer⟩]

def handler (providers : List TokenProvider) : Handler :=
  Gate.stack providers (Router.handle routes)

/-- The answers to requests in their order. Each request has its number in the order, and comes
without a context. -/
def run (providers : List TokenProvider) (requests : List Request) : List Exchange :=
  requests.mapIdx fun number request =>
    (handler providers).serve { request with number, context := none }

def isValidated (gate : Nat) : Event → Bool
  | .validated depth => depth = gate
  | _ => false

def validations (gate : Nat) (exchanges : List Exchange) : Nat :=
  (exchanges.flatMap (·.events)).countP (isValidated gate)

def handled? : Event → Option (Option Nat)
  | .handled context => some context
  | _ => none

def contexts (exchanges : List Exchange) : List (Option Nat) :=
  (exchanges.flatMap (·.events)).filterMap handled?

end Tollgate.GateStack
