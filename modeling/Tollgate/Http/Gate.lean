import Tollgate.Http.ApiError
import Tollgate.Http.Url
import Tollgate.Token.Provider

namespace Tollgate

/-- What a gate needs: to find a token in a request, to validate it, and to name its principal. -/
structure TokenProvider where
  resolveToken : Headers → Traced (Option Text)
  validateToken : Text → Traced Json
  getAuthentication : Text → Json → Traced Principal

def JwtProvider.toTokenProvider (provider : JwtProvider) (now : Clock) : TokenProvider where
  resolveToken headers := pure (JwtProvider.resolveToken headers)
  validateToken token := do return .object (← provider.validateToken now token)
  getAuthentication token claims := provider.getAuthentication now token (some claims)

/-- Leaves a mark of each call to validate a token, also if the call fails; the number tells the
providers of a stack apart. -/
def TokenProvider.recorded (number : Nat) (provider : TokenProvider) : TokenProvider :=
  { provider with
    validateToken := fun token => do
      Traced.emit (.validated number)
      provider.validateToken token }

structure GateResult where
  context : SecurityContext
  response : Option Response := none

namespace Gate

def isShortCircuited (result : GateResult) : Bool := result.response.isSome

def unauthorized : Response := ApiCode.invalidExpiredToken.response

def identify (provider : TokenProvider) (request : Request) (token : Text) :
    Traced GateResult := do
  let context := SecurityContext.empty request.number
  let claims ← provider.validateToken token
  if claims.isTruthy then
    let principal ← provider.getAuthentication token claims
    return { context := context.authenticate principal }
  else return { context }

def refuse (request : Request) : Traced GateResult := do
  let path ← Traced.ofCrash request.urlPath
  let code := ApiCode.invalidExpiredToken
  Traced.log .warning .gate <|
    Text.lit code.statusName ++ Text.lit ": " ++ Text.lit code.message ++ Text.lit " path=" ++ path
  return { context := SecurityContext.empty request.number, response := some unauthorized }

/-- Decides about a request. One without a token goes on anonymously, one with a good token goes on
with its principal, and one with a bad token is answered. -/
def screen (provider : TokenProvider) (request : Request) : Traced GateResult := do
  match ← provider.resolveToken request.headers with
  | none => return { context := SecurityContext.empty request.number }
  | some token =>
    (identify provider request token).handle fun
      | .api .invalidExpiredToken _ => refuse request
      | fault => Traced.fail fault

def authenticate (depth : Nat) (provider : TokenProvider) (request : Request) :
    Traced GateResult :=
  screen (provider.recorded depth) request

/-- Runs once for a request: a gate further in lets everything pass. -/
def layer (depth : Nat) (provider : TokenProvider) : Layer := fun next request =>
  match request.context with
  | some _ => next request
  | none => do
    let result ← authenticate depth provider request
    match result.response with
    | some response => return response
    | none => next { request with context := some result.context }

def stackFrom : (depth : Nat) → List TokenProvider → Layer
  | _, [], next => next
  | depth, provider :: providers, next =>
    layer depth provider (stackFrom (depth + 1) providers next)

def stack (providers : List TokenProvider) : Layer := stackFrom 0 providers

end Gate

end Tollgate
