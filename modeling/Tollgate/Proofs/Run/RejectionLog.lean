import Tollgate.Proofs.Http.DeclaredLimit
import Tollgate.Proofs.Http.Rejection
import Tollgate.Proofs.Http.Routes
import Tollgate.Run

namespace Tollgate

open Traced

namespace Request

/-- Both requests go to the same place, in the same way. -/
structure SameTarget (first second : Request) : Prop where
  method : first.method = second.method
  path : first.path = second.path
  query : first.query = second.query

def pathLog (request : Request) (record : Text → LogRecord) : List LogRecord :=
  (request.urlPath.toOption.map record).toList

theorem SameTarget.pathLog_eq {first second : Request} (same : first.SameTarget second)
    (record : Text → LogRecord) : first.pathLog record = second.pathLog record := by
  unfold pathLog urlPath queryText escapedPath
  rw [same.path, same.query]

end Request

namespace JwtProvider

section

variable {provider : JwtProvider} {now : Clock} {token : Text} {claims : Members}

theorem validateToken_of_flaw {flaw : TokenFlaw}
    (flawed : provider.decode now token = .error (.flaw flaw)) :
    provider.validateToken now token =
      ⟨[], .error (.api .invalidExpiredToken (some (.token flaw)))⟩ := by
  unfold validateToken
  rw [flawed]
  rfl

theorem checkRevocation_logs (passed : (provider.checkRevocation claims).outcome = .ok ()) :
    (provider.checkRevocation claims).logs = [] := by
  have unrevoked := checkRevocation_ok_iff.mp passed
  unfold checkRevocation RevocationCheck.recorded
  cases given : provider.revoked with
  | none => rfl
  | some check =>
    simp only [unrevoked check given]
    rfl

theorem authorities_logs {names : List Text} (granted : (authorities claims).outcome = .ok names) :
    (authorities claims).logs = [] := by
  unfold authorities at granted ⊢
  split
  · rfl
  · rename_i malformed
    rw [malformed] at granted
    cases granted

theorem validateToken_logs (valid : (provider.validateToken now token).outcome = .ok claims) :
    (provider.validateToken now token).logs = [] := by
  unfold validateToken at valid ⊢
  obtain ⟨decoded, read, valid⟩ := bind_outcome_ok_iff.mp valid
  obtain ⟨_, passed, valid⟩ := bind_outcome_ok_iff.mp valid
  obtain ⟨names, granted, -⟩ := bind_outcome_ok_iff.mp valid
  have screened := checkRevocation_logs passed
  have quiet := authorities_logs granted
  unfold logs at screened quiet ⊢
  rw [bind_of_ok read, bind_of_ok passed, bind_of_ok granted]
  simp only [ofExcept_eq, List.filterMap_append, screened, quiet]
  rfl

end

end JwtProvider

namespace Gate

variable {provider : JwtProvider} {now : Clock} {request : Request} {token : Text}

theorem layer_logs_of_flaw (depth : Nat) {flaw : TokenFlaw} (arriving : request.context = none)
    (found : JwtProvider.resolveToken request.headers = some token)
    (flawed : provider.decode now token = .error (.flaw flaw)) (next : Handler) :
    (layer depth (provider.toTokenProvider now) next request).logs =
      request.pathLog rejection := by
  have refused := JwtProvider.validateToken_of_flaw flawed
  rw [layer_of_new _ _ arriving, authenticate_of_token _ found,
    identify_of_error _ (congrArg Traced.outcome refused), refused]
  unfold handle refuse Request.pathLog
  cases request.urlPath with
  | error crash => rfl
  | ok path => rfl

end Gate

namespace WebhookService

def complaint : ApiCode → List LogRecord
  | .signatureVerificationError =>
    [⟨.warning, .webhook, Text.lit "Stripe signature verification failed"⟩]
  | .deserializationError =>
    [⟨.warning, .webhook, Text.lit "Stripe event payload could not be deserialized"⟩]
  | _ => []

theorem constructEvent_logs {service : WebhookService} {now : Clock} {payload : Payload}
    {header : Text} {code : ApiCode} {cause : Option Cause}
    (failed : (service.constructEvent now payload header).outcome = .error (.api code cause)) :
    (service.constructEvent now payload header).logs = complaint code := by
  unfold constructEvent at failed ⊢
  split
  all_goals
    rename_i opened
    rw [opened] at failed
    cases failed
  · rfl
  · rfl

end WebhookService

namespace Handler

def report (code : ApiCode) (method path : Text) : LogRecord where
  level := .warning
  source := .application
  message := Text.lit code.statusName ++ Text.lit " " ++ method ++ Text.lit " " ++ path ++
    Text.lit ": " ++ Text.lit code.message

theorem tellError_logs (request : Request) (code : ApiCode) :
    (tellError request code).logs = request.pathLog (report code request.method) := by
  have answered : ApiError.response ⟨code, none⟩ code.errorCode.status = .ok code.response :=
    code.apiError_response
  unfold tellError Request.pathLog
  rw [answered]
  cases request.urlPath with
  | error crash => rfl
  | ok path => rfl

theorem reportErrors_logs {next : Handler} {request : Request} {code : ApiCode}
    {cause : Option Cause} (failed : (next request).outcome = .error (.api code cause)) :
    (reportErrors next request).logs =
      (next request).logs ++ request.pathLog (report code request.method) := by
  rw [reportErrors_of_answered failed rfl, ← tellError_logs]
  exact List.filterMap_append

theorem deliveries_of_refused {service : WebhookService} (billing : Billing) {now : Clock}
    {request : Request} {signature : Text} {code : ApiCode} {cause : Option Cause}
    (signed : request.header? "stripe-signature" = some signature)
    (failed : (service.constructEvent now (.bytes request.body) signature).outcome =
      .error (.api code cause)) :
    deliveries service (some billing) now request =
      ⟨(service.constructEvent now (.bytes request.body) signature).events,
        .error (.api code cause)⟩ := by
  rw [deliveries_of_signed service billing now signed, WebhookService.handleDelivery,
    bind_of_error failed, error_bind]

end Handler

namespace Application

def withSecrets (app : Application) (jwtSecretKey stripeWebhookSecret : Text) : Application :=
  { app with settings := { app.settings with jwtSecretKey, stripeWebhookSecret } }

/-- What is logged about a request that comes in a state of a run. -/
def logsAt (app : Application) (state : RunState) (request : Request) : List LogRecord :=
  let provider := (app.providerAt state).toTokenProvider state.now
  let exchange := (app.handler provider state.now).serve request
  app.written (exchange.events.filterMap Event.logged?)

structure ComesToGate (app : Application) (request : Request) : Prop where
  arriving : request.context = none
  noPreflight : ∀ origin method, ¬ request.IsPreflight origin method
  within : request.IsWithin app.settings.maxBodyBytes

def CarriesFlawed (app : Application) (state : RunState) (request : Request) : Prop :=
  ∃ token flaw, JwtProvider.resolveToken request.headers = some token ∧
    (app.providerAt state).decode state.now token = .error (.flaw flaw)

/-- The request is a delivery that the layers pass on, and the event in it is refused with this
code. -/
structure DeliversInVain (app : Application) (state : RunState) (request : Request)
    (code : ApiCode) : Prop where
  passes : ∃ events context,
    app.PassesOn ((app.providerAt state).toTokenProvider state.now) request events context
  method : request.method = Text.lit "POST"
  path : request.path = Text.lit "/webhooks/stripe"
  available : ∃ billing, app.billing = some billing
  refused : ∃ signature cause, request.header? "stripe-signature" = some signature ∧
    (app.settings.webhookService.constructEvent state.now (.bytes request.body) signature).outcome =
      .error (.api code cause)

section

variable {app : Application} {state : RunState} {request : Request} {code : ApiCode}

theorem logsAt_eq (app : Application) (state : RunState) (request : Request) :
    app.logsAt state request = app.written
      (app.handler ((app.providerAt state).toTokenProvider state.now) state.now request).logs := by
  exact congrArg (fun events => app.written (events.filterMap Event.logged?))
    (Handler.serve_events _ request)

theorem logsAt_of_flawed (comes : app.ComesToGate request)
    (flawed : app.CarriesFlawed state request) :
    app.logsAt state request = app.written (request.pathLog Gate.rejection) := by
  obtain ⟨token, flaw, found, flawed⟩ := flawed
  obtain ⟨⟨length, declared⟩, small⟩ := comes.within.exists_declared
  have through : app.handler ((app.providerAt state).toTokenProvider state.now) state.now
      request = _ := around_of_reachesGate _ ⟨comes.noPreflight, small⟩ declared _
  rw [logsAt_eq, through]
  exact congrArg app.written (Gate.layer_logs_of_flaw 0 comes.arriving found flawed _)

theorem PassesOn.logs_eq_nil {provider : JwtProvider} {now : Clock} {events : List Event}
    {context : SecurityContext} (arriving : request.context = none)
    (passes : app.PassesOn (provider.toTokenProvider now) request events context) :
    events.filterMap Event.logged? = [] := by
  rcases (admission arriving : app.Admission provider now request) with
    ⟨answer, alone, -⟩ | ⟨-, also⟩ | ⟨token, claims, principal, -, valid, -, -, also⟩
  · exact absurd passes alone.not_passesOn
  · rw [(passes.unique also).1]
    rfl
  · rw [(passes.unique also).1]
    exact JwtProvider.validateToken_logs valid

theorem logsAt_of_refused (arriving : request.context = none)
    (refused : app.DeliversInVain state request code) :
    app.logsAt state request = app.written
      (WebhookService.complaint code ++ request.pathLog (Handler.report code request.method)) := by
  obtain ⟨⟨events, context, passes⟩, method, path, ⟨billing, available⟩,
    ⟨signature, cause, signed, failed⟩⟩ := refused
  have quiet := passes.logs_eq_nil arriving
  have complained := WebhookService.constructEvent_logs failed
  have routed : Router.handle (app.routes state.now) { request with context := some context } = _ :=
    app.handle_deliveries state.now method path
  rw [available] at routed
  have ended := routed.trans (Handler.deliveries_of_refused billing signed failed)
  have reported := Handler.reportErrors_logs (congrArg Traced.outcome ended)
  have through : app.handler ((app.providerAt state).toTokenProvider state.now) state.now
    request = _ := passes _
  rw [logsAt_eq, through]
  unfold logs at reported complained ⊢
  dsimp only
  rw [List.filterMap_append, quiet, List.nil_append, reported, ended]
  exact congrArg (fun log => app.written (log ++ _)) complained

end

/-- What is logged about a rejected request is settled by where the request went. Applications that
differ in their secrets, at any states, log the same about any two tokens that have a flaw, and the
same about any two deliveries that are refused with one code. -/
theorem rejections_logged_alike (app : Application) (jwtSecretKey stripeWebhookSecret : Text)
    (state later : RunState) (first second : Request) (same : first.SameTarget second)
    (comes : app.ComesToGate first)
    (also : (app.withSecrets jwtSecretKey stripeWebhookSecret).ComesToGate second) :
    let other := app.withSecrets jwtSecretKey stripeWebhookSecret
    (app.CarriesFlawed state first → other.CarriesFlawed later second →
      app.logsAt state first = other.logsAt later second) ∧
    ∀ code, app.DeliversInVain state first code → other.DeliversInVain later second code →
      app.logsAt state first = other.logsAt later second := by
  intro other
  -- The threshold of a log is not a secret.
  have written (records : List LogRecord) : other.written records = app.written records := rfl
  constructor
  · intro flawed flawedAlso
    rw [logsAt_of_flawed comes flawed, logsAt_of_flawed also flawedAlso, written,
      same.pathLog_eq]
  · intro code refused refusedAlso
    rw [logsAt_of_refused comes.arriving refused, logsAt_of_refused also.arriving refusedAlso,
      written, same.pathLog_eq, same.method]

def emptyDelivery (headers : Headers) : Request where
  number := 0
  method := Text.lit "POST"
  path := Text.lit "/webhooks/stripe"
  query := []
  headers := headers
  chunks := []

theorem emptyDelivery_comesToGate (app : Application) {headers : Headers}
    (undeclared : (emptyDelivery headers).header? "content-length" = none) :
    app.ComesToGate (emptyDelivery headers) where
  arriving := rfl
  noPreflight origin method asked := by
    have options : Text.lit "POST" = Text.lit "OPTIONS" := asked.1
    exact absurd options (by decide)
  within := .undeclared undeclared

theorem emptyDelivery_deliversInVain {app : Application} {state : RunState} {headers : Headers}
    {billing : Billing} {signature : Text} {code : ApiCode} {cause : Option Cause}
    (undeclared : (emptyDelivery headers).header? "content-length" = none)
    (noToken : JwtProvider.resolveToken headers = none)
    (available : app.billing = some billing)
    (signed : (emptyDelivery headers).header? "stripe-signature" = some signature)
    (failed : (app.settings.webhookService.constructEvent state.now (.bytes []) signature).outcome =
      .error (.api code cause)) :
    app.DeliversInVain state (emptyDelivery headers) code where
  passes := by
    have comes := emptyDelivery_comesToGate app undeclared
    obtain ⟨⟨length, declared⟩, small⟩ := comes.within.exists_declared
    exact ⟨_, _, passesOn_of_anonymous comes.arriving ⟨comes.noPreflight, small⟩ declared noToken⟩
  method := rfl
  path := rfl
  available := ⟨billing, available⟩
  refused := ⟨signature, cause, signed, failed⟩

theorem emptyDelivery_logged_alike :
    let app := failingApplication (.named (Text.lit "down"))
    let other := app.withSecrets (Text.lit "another") (Text.lit "whsec_other")
    let state := initial (.whole 0) false
    let later := initial (.whole 7) true
    let withToken (token : String) := emptyDelivery
      [(Text.lit "authorization", Text.lit "Bearer " ++ Text.lit token)]
    let signed (header : String) := emptyDelivery [(Text.lit "stripe-signature", Text.lit header)]
    app.logsAt state (withToken "x") =
        other.logsAt later (withToken "e30.e30.AA") ∧
      app.logsAt state (signed "t=1") = other.logsAt later (signed "v1=00") := by
  intro app other state later withToken signed
  have flawed : app.CarriesFlawed state (withToken "x") :=
    ⟨Text.lit "x", .tooFewSegments, by decide +kernel, by decide +kernel⟩
  have flawedAlso : other.CarriesFlawed later (withToken "e30.e30.AA") :=
    ⟨Text.lit "e30.e30.AA", .noAlgorithm, by decide +kernel, by decide +kernel⟩
  have unsigned : (app.settings.webhookService.constructEvent (.whole 0) (.bytes [])
      (Text.lit "t=1")).outcome =
      .error (.api .signatureVerificationError (some (.signature .noSignature))) := by
    decide +kernel
  have unreadable : (other.settings.webhookService.constructEvent (.whole 7) (.bytes [])
      (Text.lit "v1=00")).outcome =
      .error (.api .signatureVerificationError (some (.signature .unreadableHeader))) := by
    decide +kernel
  have refused : app.DeliversInVain state (signed "t=1") _ :=
    emptyDelivery_deliversInVain rfl rfl rfl rfl unsigned
  have refusedAlso : other.DeliversInVain later (signed "v1=00") _ :=
    emptyDelivery_deliversInVain rfl rfl rfl rfl unreadable
  have sameTarget {headers others : Headers} :
      (emptyDelivery headers).SameTarget (emptyDelivery others) := ⟨rfl, rfl, rfl⟩
  constructor
  · exact (rejections_logged_alike app _ _ state later (withToken "x")
      (withToken "e30.e30.AA") sameTarget (emptyDelivery_comesToGate _ rfl)
      (emptyDelivery_comesToGate _ rfl)).1 flawed flawedAlso
  · exact (rejections_logged_alike app _ _ state later (signed "t=1")
      (signed "v1=00") sameTarget (emptyDelivery_comesToGate _ rfl)
      (emptyDelivery_comesToGate _ rfl)).2 _ refused refusedAlso

end Application

end Tollgate
