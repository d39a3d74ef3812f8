import Tollgate.Account.Principal

namespace Tollgate

inductive ContextStep where
  | authenticate (principal : Principal)
  | clear
  | current
  | hasAuthority (authority : Text)
  | rename (subject : Json)
  | equals (principal : Principal)

inductive ContextAnswer where
  | done
  | flag (value : Bool)
  | principal (value : Principal)

namespace SecurityContext

def step (context : SecurityContext) : ContextStep → SecurityContext × Except Fault ContextAnswer
  | .authenticate principal => (context.authenticate principal, .ok .done)
  | .clear => (context.clear, .ok .done)
  | .current => (context, context.current.map .principal)
  | .hasAuthority authority =>
    match context.principal with
    | some principal => (context, .ok (.flag (principal.hasAuthority authority)))
    | none => (context, .error (.crash .noMembers))
  | .rename _ =>
    (context, .error (.crash (if context.isAuthenticated then .immutable else .noMembers)))
  | .equals principal => (context, .ok (.flag (context.principal.any (·.isEquivalent principal))))

def run : SecurityContext → List ContextStep → List (Except Fault ContextAnswer × SecurityContext)
  | _, [] => []
  | context, s :: steps =>
    let (next, answer) := context.step s
    (answer, next) :: run next steps

end SecurityContext

end Tollgate
