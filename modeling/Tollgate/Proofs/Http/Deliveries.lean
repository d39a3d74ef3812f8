import Tollgate.Proofs.Http.Account
import Tollgate.Proofs.Http.Routes
import Tollgate.Proofs.Webhook.Authenticity

namespace Tollgate

open Traced

def Response.Tells (response : Response) (code : ApiCode) : Prop :=
  response.status = code.status ∧ Token.Holds response.body
    [(Text.lit "status", .lit code.statusName), (Text.lit "message", .lit code.message)]

def ErrorCode.members (code : ErrorCode) : Members :=
  [(Text.lit "status", .text code.statusName), (Text.lit "message", .text code.message)]

/-- The exchange shows this answer, or the crash that came in its place. -/
def Exchange.Answers (exchange : Exchange) : Except Crash Response → Prop
  | .ok response => exchange.response.status = response.status ∧
    exchange.response.body = response.body ∧ exchange.raised = none
  | .error crash => exchange.raised = some (Fault.crash crash).fromCoroutine

theorem Token.holds_lowBytes {members : Members} (exact : Json.IsExact (.object members))
    (ascii : (Json.compactUnicode (.object members)).isAscii = true) :
    Holds (Json.compactUnicode (.object members)).lowBytes members :=
  holds_of_encode exact (Utf8.encode_lowBytes ascii)

theorem ApiCode.response_tells (code : ApiCode) : code.response.Tells code := by
  have keys : [Text.lit "status", Text.lit "message"].Nodup := by decide
  have status : (Text.lit code.statusName).hasSurrogate = false := by cases code <;> decide
  have message : (Text.lit code.message).hasSurrogate = false := by cases code <;> decide
  have ascii : (Json.compactUnicode (ApiError.json ⟨code, none⟩)).isAscii = true := by
    cases code <;> decide
  exact ⟨rfl, Token.holds_lowBytes ⟨keys, by decide, status, by decide, message, trivial⟩ ascii⟩

theorem Response.Tells.withHeaders {response : Response} {code : ApiCode}
    (tells : response.Tells code) (headers : Headers) : (response.withHeaders headers).Tells code :=
  tells

namespace Handler

section

variable {service : WebhookService} {now : Clock} {request : Request} {signature : Text}

theorem deliveries_of_signed (service : WebhookService) (billing : Billing) (now : Clock)
    (signed : request.header? "stripe-signature" = some signature) :
    deliveries service (some billing) now request =
      service.handleDelivery billing now (.bytes request.body) signature >>= fun _ =>
        jsonAnswer (.object [(Text.lit "status", .lit "received")]) := by
  unfold deliveries
  rw [signed]

end

end Handler

namespace Application

variable {app : Application} {provider : JwtProvider} {now : Clock} {request : Request}
  {events : List Event} {context : SecurityContext}

theorem handle_deliveries (app : Application) (now : Clock) {request : Request}
    (method : request.method = Text.lit "POST")
    (path : request.path = Text.lit "/webhooks/stripe") :
    Router.handle (app.routes now) request =
      Handler.deliveries app.settings.webhookService app.billing now request := by
  have found : ((app.routes now).filter (Router.hasPath · request.path)).find?
      (fun route => Text.lit route.method = request.method) =
      some ⟨"POST", "/webhooks/stripe",
        Handler.deliveries app.settings.webhookService app.billing now⟩ := by
    have others : ∀ other ∈ ["/health", "/accounts/me"],
        Text.lit "/webhooks/stripe" ≠ Text.lit other ∧
          Text.lit "/webhooks/stripe" ≠ Text.lit other ++ Text.lit "\n" := by decide
    simp only [List.forall_mem_cons] at others
    rw [method, path]
    simp [routes, Router.hasPath, others]
  simp only [Router.handle, found]

section

variable {page : Traced Response}

theorem PassesOn.answers
    (passes : app.PassesOn (provider.toTokenProvider now) request events context)
    (routed : Router.handle (app.routes now) { request with context := some context } = page)
    {fault : Fault} (failed : page.outcome = .error fault) {answer : Traced Response}
    (answered : Handler.answerTo? { request with context := some context } fault = some answer)
    {ending : Except Crash Response} (ends : answer.outcome = ending.mapError .crash) :
    ((app.handler (provider.toTokenProvider now) now).serve request).Answers ending := by
  rcases passes.serve_of_answered routed failed answered with
    ⟨response, good, served⟩ | ⟨other, bad, served⟩
  · rw [served]
    cases mapError_eq_ok.mp (ends.symm.trans good)
    exact ⟨rfl, rfl, rfl⟩
  · rw [served]
    obtain ⟨crash, rfl, rfl⟩ := mapError_eq_error.mp (ends.symm.trans bad)
    rfl

end

def cancellationRequest : Request where
  number := 0
  method := Text.lit "POST"
  path := Text.lit "/webhooks/stripe"
  query := []
  headers := [(Text.lit "stripe-signature", WebhookService.cancellationHeader)]
  chunks := [Text.lowBytes (Text.lit "\x7b\"type\":\"customer.subscription.deleted\""), [],
    Text.lowBytes (Text.lit ",\"data\":\x7b\"object\":\x7b\"object\":\"subscription\"\x7d\x7d\x7d")]

def failingApplication (failure : Foreign) : Application :=
  { plainApplication with billing := some fun _ => .error (.crash (.foreign failure)) }

end Application

end Tollgate
