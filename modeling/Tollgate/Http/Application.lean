import Tollgate.Http.BodyLimit
import Tollgate.Http.Cors
import Tollgate.Http.Gate
import Tollgate.Http.Router
import Tollgate.Settings.Basic

namespace Tollgate

structure Exchange where
  events : List Event
  response : Response
  raised : Option Fault

namespace Handler

def tellError (request : Request) (code : ErrorCode) : Traced Response := do
  let path ← Traced.ofCrash request.urlPath
  Traced.log .warning .application <|
    code.statusName ++ Text.lit " " ++ request.method ++ Text.lit " " ++ path ++ Text.lit ": " ++
      code.message
  Traced.ofCrash (ApiError.response ⟨code, none⟩ code.status)

/-- What is done about a fault, if anything is. Findings are told of without a log record, and
nothing can be done for a web socket. -/
def answerTo? (request : Request) : Fault → Option (Traced Response)
  | .api code _ => some (tellError request code)
  | .crash (.foreign (.api code)) => some (tellError request code)
  | .crash (.foreign (.findings findings)) => some (Traced.ofCrash (Validation.response findings))
  | .crash (.foreign (.http status detail)) =>
    some (Traced.ofCrash (Response.ofDetail status detail))
  | .crash (.foreign .socket) => some (Traced.crash .wrongType)
  | _ => none

def reportErrors : Layer := fun next request =>
  (next request).handle fun fault => (answerTo? request fault).getD (Traced.fail fault)

def serverError : Response := Response.ofText 500 "Internal Server Error"

def serve (handler : Handler) (request : Request) : Exchange :=
  let answer := handler request
  match answer.outcome with
  | .ok response => { events := answer.events, response, raised := none }
  | .error fault =>
    { events := answer.events, response := serverError, raised := some fault.fromCoroutine }

def plainAnswer (value : Json) : Traced Response := Traced.ofCrash (Response.ofJson 200 value)

/-- A JSON answer that is refused as a whole if a text in it has no encoding. -/
def jsonAnswer (value : Json) : Traced Response :=
  Traced.ofCrash <| (Response.ofJson 200 value).mapError fun
    | .unencodable => .unwritableAnswer
    | crash => crash

def version : String := "1.0.0"

def health : Handler := fun _ =>
  jsonAnswer (.object [(Text.lit "status", .lit "ok"), (Text.lit "version", .lit version)])

def account (principal : Principal) : Except Crash Json :=
  match principal.subject with
  | .text username =>
    .ok (.object [(Text.lit "username", .text username),
      (Text.lit "authorities", .list (principal.authorities.map Json.text))])
  | _ => .error (.invalidFields [("username", .notText)])

def whoAmI (answer : Json → Traced Response) : Handler := fun request => do
  let principal ← Traced.ofExcept request.securityContext.current
  answer (← Traced.ofCrash (account principal))

def signatureMissing : Members :=
  [(Text.lit "loc", .list [.lit "header", .lit "Stripe-Signature"]),
   (Text.lit "msg", .lit "Field required"), (Text.lit "input", .null)]

def deliveries (service : WebhookService) (billing : Option Billing) (now : Clock) : Handler :=
  fun request =>
    match billing, request.header? "stripe-signature" with
    | none, _ => Traced.reject .billingUnavailable
    | some _, none => Traced.crash (.foreign (.findings [signatureMissing]))
    | some billing, some signature => do
      service.handleDelivery billing now (.bytes request.body) signature
      jsonAnswer (.object [(Text.lit "status", .lit "received")])

end Handler

def logThreshold? (name : Text) : Option Nat :=
  let upper := name.map fun c =>
    if c.val = 0x131 then CodePoint.ofChar 'I'
    else if c.val = 0x17F then CodePoint.ofChar 'S'
    else if h : 0x61 ≤ c.val ∧ c.val ≤ 0x7A then ⟨c.val - 0x20, by omega⟩
    else c
  let levels : List (String × Nat) :=
    [("CRITICAL", 50), ("FATAL", 50), ("ERROR", 40), ("WARNING", 30), ("WARN", 30), ("INFO", 20),
     ("DEBUG", 10), ("NOTSET", 0)]
  (levels.find? fun (level, _) => Text.lit level = upper).map (·.2)

structure Application where
  settings : Settings
  logThreshold : Nat
  billing : Option Billing

namespace Application

def make (settings : Settings) (billing : Option Billing) : Except Crash Application := do
  let some logThreshold := logThreshold? settings.logLevel | throw .wrongValue
  let _ ← settings.provider none
  return { settings, logThreshold, billing }

def startupLogs (app : Application) : List LogRecord :=
  match app.billing with
  | some _ => []
  | none =>
    [⟨.warning, .application,
      Text.lit "No billing service configured; Stripe webhooks will be rejected"⟩]

def written (app : Application) (records : List LogRecord) : List LogRecord :=
  records.filter fun record => app.logThreshold ≤ record.level.severity

/-- The routes of the service's own; those that show its documentation are left out. -/
def routes (app : Application) (now : Clock) : List Route :=
  [⟨"GET", "/health", Handler.health⟩,
   ⟨"GET", "/accounts/me", Handler.whoAmI Handler.jsonAnswer⟩,
   ⟨"POST", "/webhooks/stripe", Handler.deliveries app.settings.webhookService app.billing now⟩]

/-- The handler of all requests that come at a time, with a provider of tokens. A request passes the
cross-origin rules, the limit on its body and the gate, in this order. -/
def handler (app : Application) (provider : TokenProvider) (now : Clock) : Handler :=
  Cors.layer app.settings.origins <|
    BodyLimit.layer app.settings.maxBodyBytes <|
      Gate.layer 0 provider <|
        Handler.reportErrors <| Router.handle (app.routes now)

end Application

end Tollgate
