import Tollgate.Http.Application

namespace Tollgate

structure Signing where
  secret : Option Text
  timestamp : Option Int

structure Draft where
  method : Text
  path : Text
  query : Bytes
  headers : Headers
  body : Bytes
  chunkSize : Option Nat
  bearer : Option Text
  signing : Option Signing

inductive Step where
  | setClock (now : Clock)
  | issue (name : Text) (subject authorities : Json) (tokenId : Text)
  | revoke (tokenId : Option Text)
  /-- The host sets what it says of tokens that are not revoked by their id. -/
  | setCheck (check : RevocationCheck)
  | request (draft : Draft)

inductive StepResult where
  | done
  | issued (token : Text)
  | answered (response : Response) (raised : Option Fault)
  | failed (crash : Crash)

structure StepRecord where
  events : List Event
  result : StepResult

/-- The state between steps. Without a revocation list nothing can be revoked. -/
structure RunState where
  now : Clock
  revoked : Option (List (Option Text))
  check : RevocationCheck
  issued : List (Text × Text)
  requests : Nat

def RunState.revocation? (state : RunState) : Option RevocationCheck :=
  state.revoked.map state.check.orListed

namespace Draft

def split (size : Nat) : (fuel : Nat) → Bytes → List Bytes
  | 0, body => [body]
  | fuel + 1, body =>
    if body.length ≤ size || size = 0 then [body]
    else body.take size :: split size fuel (body.drop size)

def chunks (draft : Draft) : List Bytes :=
  match draft.chunkSize with
  | none => [draft.body]
  | some size => split size draft.body.length draft.body

def signature (body : Bytes) (signing : Signing) (secret : Text) (now : Clock) : Headers :=
  let key := (Utf8.encode (signing.secret.getD secret)).getD []
  let timestamp := signing.timestamp.getD now.truncate
  [(Text.lit "stripe-signature", Webhook.signatureHeader key timestamp body)]

def request? (draft : Draft) (settings : Settings) (state : RunState) : Option Request := do
  let authorization ← match draft.bearer with
    | none => some []
    | some name =>
      (state.issued.lookup name).map fun token =>
        [(Text.lit "authorization", Text.lit "Bearer " ++ token)]
  let signatures := (draft.signing.map fun signing =>
    signature draft.body signing settings.stripeWebhookSecret state.now).getD []
  return {
    number := state.requests
    method := draft.method
    path := draft.path
    query := draft.query
    headers := authorization ++ draft.headers ++ signatures
    chunks := draft.chunks }

end Draft

namespace Application

def providerAt (app : Application) (state : RunState) : JwtProvider :=
  { secret := app.settings.jwtSecretKey
    algorithm := app.settings.jwtAlgorithm
    validityMinutes := app.settings.jwtValidityMinutes
    revoked := state.revocation? }

def initial (now : Clock) (revocation : Bool) : RunState :=
  { now, revoked := if revocation then some [] else none, check := .passing, issued := [],
    requests := 0 }

def step (app : Application) (state : RunState) : Step → RunState × StepRecord
  | .setClock now => ({ state with now }, ⟨[], .done⟩)
  | .issue name subject authorities tokenId =>
    match (app.providerAt state).createToken state.now tokenId subject authorities with
    | .ok token => ({ state with issued := (name, token) :: state.issued }, ⟨[], .issued token⟩)
    | .error crash => (state, ⟨[], .failed crash⟩)
  | .revoke tokenId =>
    ({ state with revoked := state.revoked.map (· ++ [tokenId]) }, ⟨[], .done⟩)
  | .setCheck check => ({ state with check }, ⟨[], .done⟩)
  | .request draft =>
    match draft.request? app.settings state with
    | none => (state, ⟨[], .failed .unknownName⟩)
    | some request =>
      let provider := (app.providerAt state).toTokenProvider state.now
      let exchange := (app.handler provider state.now).serve request
      ({ state with requests := state.requests + 1 },
        ⟨exchange.events, .answered exchange.response exchange.raised⟩)

def run (app : Application) : RunState → List Step → List StepRecord
  | _, [] => []
  | state, s :: steps =>
    let (next, record) := app.step state s
    record :: run app next steps

end Application

end Tollgate
