import Tollgate.Http.Application
import Tollgate.Proofs.Http.Gate
import Tollgate.Proofs.Http.Layers

namespace Tollgate

open Traced

namespace Application

def around (app : Application) (provider : TokenProvider) : Layer := fun next =>
  Cors.layer app.settings.origins <|
    BodyLimit.layer app.settings.maxBodyBytes <| Gate.layer 0 provider next

/-- The layers answer, whatever stands behind them. -/
def AnswersAlone (app : Application) (provider : TokenProvider) (request : Request)
    (answer : Traced Response) : Prop :=
  ∀ next, app.around provider next request = answer

/-- The layers pass a request on in a context, and the answer back. -/
def PassesOn (app : Application) (provider : TokenProvider) (request : Request)
    (events : List Event) (context : SecurityContext) : Prop :=
  ∀ next, app.around provider next request =
    ⟨events ++ (next { request with context := some context }).events,
      (next { request with context := some context }).outcome.map
        (·.withHeaders (Cors.simpleHeaders app.settings.origins request.headers))⟩

structure ReachesGate (app : Application) (request : Request) : Prop where
  noPreflight : ∀ origin method, ¬ request.IsPreflight origin method
  inLimit : ∀ length, request.Declares length → length ≤ app.settings.maxBodyBytes

theorem around_of_preflight {app : Application} {request : Request} {origin method : Text}
    (provider : TokenProvider) (asked : request.IsPreflight origin method) :
    app.AnswersAlone provider request
      (pure (Cors.preflight app.settings.origins request.headers origin method)) := by
  intro next
  exact Cors.layer_of_preflight asked _

theorem around_of_large {app : Application} {request : Request} {length : Int}
    (provider : TokenProvider) (noPreflight : ∀ origin method, ¬ request.IsPreflight origin method)
    (declares : request.Declares length) (large : app.settings.maxBodyBytes < length) :
    app.AnswersAlone provider request (pure (ApiCode.payloadTooLarge.response.withHeaders
      (Cors.simpleHeaders app.settings.origins request.headers))) := by
  intro next
  unfold around
  rw [Cors.layer_of_other noPreflight, BodyLimit.layer_of_large declares large]
  rfl

theorem around_of_reachesGate {app : Application} {request : Request} {length : Option Int}
    (provider : TokenProvider) (reaches : app.ReachesGate request)
    (found : BodyLimit.declared request.headers = .ok length) (next : Handler) :
    app.around provider next request =
      ⟨(Gate.layer 0 provider next request).events,
        (Gate.layer 0 provider next request).outcome.map
          (·.withHeaders (Cors.simpleHeaders app.settings.origins request.headers))⟩ := by
  unfold around
  rw [Cors.layer_of_other reaches.noPreflight, BodyLimit.layer_of_small found reaches.inLimit]

theorem around_of_refused {app : Application} {provider : JwtProvider} {now : Clock}
    {request : Request} {length : Option Int} {token : Text} {cause : Option Cause}
    (arriving : request.context = none) (reaches : app.ReachesGate request)
    (declared : BodyLimit.declared request.headers = .ok length)
    (found : JwtProvider.resolveToken request.headers = some token)
    (refused : (provider.validateToken now token).outcome =
      .error (.api .invalidExpiredToken cause)) :
    ∃ answer, app.AnswersAlone (provider.toTokenProvider now) request answer ∧
      answer.calls = [] ∧ ∀ response, answer.outcome = .ok response →
        response.status = 401 ∧ response.body = ApiCode.invalidExpiredToken.response.body := by
  have quiet := provider.validateToken_calls now token
  unfold calls at quiet
  have through := around_of_reachesGate (provider.toTokenProvider now) reaches declared
  rcases Gate.layer_of_refused 0 arriving found refused with
    ⟨crash, crashed⟩ | ⟨record, answered⟩
  · refine ⟨⟨.validated 0 :: (provider.validateToken now token).events, .error (.crash crash)⟩,
      ?_, quiet, ?_⟩
    · intro next
      rw [through, crashed]
      rfl
    · intro response none
      cases none
  · refine ⟨⟨.validated 0 :: (provider.validateToken now token).events ++ [.logged record],
      .ok (Gate.unauthorized.withHeaders
        (Cors.simpleHeaders app.settings.origins request.headers))⟩, ?_, ?_, ?_⟩
    · intro next
      rw [through, answered]
      rfl
    · simp only [calls, List.filterMap_append, List.filterMap_cons, Event.billed?, quiet,
        List.filterMap_nil, List.append_nil]
    · intro response given
      cases given
      exact ⟨rfl, rfl⟩

/-- Which layer answers a request, first to last: the cross-origin rules, the limit on the body, the
gate. A request that none of them answers comes to the routes, with the principal that its token
names, if it has one. -/
structure Precedence (app : Application) (provider : JwtProvider) (now : Clock)
    (request : Request) : Prop where
  composed : app.handler (provider.toTokenProvider now) now =
    app.around (provider.toTokenProvider now)
      (Handler.reportErrors (Router.handle (app.routes now)))
  preflight : ∀ origin method, request.IsPreflight origin method →
    app.AnswersAlone (provider.toTokenProvider now) request
      (pure (Cors.preflight app.settings.origins request.headers origin method))
  tooLarge : (∀ origin method, ¬ request.IsPreflight origin method) →
    ∀ length, request.Declares length → app.settings.maxBodyBytes < length →
      app.AnswersAlone (provider.toTokenProvider now) request
        (pure (ApiCode.payloadTooLarge.response.withHeaders
          (Cors.simpleHeaders app.settings.origins request.headers)))
  refused : app.ReachesGate request → ∀ token cause,
    JwtProvider.resolveToken request.headers = some token →
    (provider.validateToken now token).outcome = .error (.api .invalidExpiredToken cause) →
    ∃ answer, app.AnswersAlone (provider.toTokenProvider now) request answer ∧
      answer.calls = [] ∧ ∀ response, answer.outcome = .ok response →
        response.status = 401 ∧ response.body = ApiCode.invalidExpiredToken.response.body
  faulty : app.ReachesGate request → ∀ token fault,
    JwtProvider.resolveToken request.headers = some token →
    (provider.validateToken now token).outcome = .error fault →
    (∀ cause, fault ≠ .api .invalidExpiredToken cause) →
    app.AnswersAlone (provider.toTokenProvider now) request
      ⟨.validated 0 :: (provider.validateToken now token).events, .error fault⟩
  identified : app.ReachesGate request → ∀ token claims,
    JwtProvider.resolveToken request.headers = some token →
    (provider.validateToken now token).outcome = .ok claims →
    ∃ principal : Principal, claims.at? "sub" = some principal.subject ∧
      Token.Grants claims principal.authorities ∧
      app.PassesOn (provider.toTokenProvider now) request
        (.validated 0 :: (provider.validateToken now token).events)
        ((SecurityContext.empty request.number).authenticate principal)
  anonymous : app.ReachesGate request → JwtProvider.resolveToken request.headers = none →
    app.PassesOn (provider.toTokenProvider now) request [] (SecurityContext.empty request.number)

/-- A request that arrives is answered by the first layer that has an answer to it, and comes to the
routes only if none has. -/
theorem layers_precedence (app : Application) (provider : JwtProvider) (now : Clock)
    (request : Request) (arriving : request.context = none)
    (readable : ∀ value, request.header? "content-length" = some value → value ≠ [] →
      (∀ c ∈ value, BodyLimit.isDigit c) → ∃ length, Integer.parse? value = some length) :
    app.Precedence provider now request := by
  obtain ⟨length, declared⟩ := BodyLimit.exists_declared readable
  have through (reaches : app.ReachesGate request) :=
    around_of_reachesGate (provider.toTokenProvider now) reaches declared
  constructor
  case composed => rfl
  case preflight =>
    intro origin method asked
    exact around_of_preflight _ asked
  case tooLarge =>
    intro noPreflight length declares large
    exact around_of_large _ noPreflight declares large
  case refused =>
    intro reaches token cause found refused
    exact around_of_refused arriving reaches declared found refused
  case faulty =>
    intro reaches token fault found failed other next
    rw [through reaches, Gate.layer_of_fault 0 arriving found failed other]
    rfl
  case identified =>
    intro reaches token claims found valid
    obtain ⟨principal, subject, grants, passed⟩ :=
      Gate.layer_of_identified 0 arriving found valid
    refine ⟨principal, subject, grants, fun next => ?_⟩
    rw [through reaches, passed]
    rfl
  case anonymous =>
    intro reaches noToken next
    rw [through reaches, Gate.layer_of_anonymous 0 arriving noToken]
    rfl

def plainApplication : Application where
  settings := ⟨Text.lit "secret", Text.lit "HS256", 60, Text.lit "whsec_test", 300, [], 1048576,
    Text.lit "INFO"⟩
  logThreshold := 20
  billing := none

def malformedRequest : Request where
  number := 0
  method := Text.lit "POST"
  path := Text.lit "/webhooks/stripe"
  query := []
  headers := [(Text.lit "authorization", Text.lit "Bearer x"),
    (Text.lit "content-length", Text.lit "2")]
  chunks := [[0x7B, 0x7D]]

theorem malformedRequest_length {value : Text}
    (found : malformedRequest.header? "content-length" = some value) :
    Integer.parse? value = some 2 := by
  have two : malformedRequest.header? "content-length" = some (Text.lit "2") := by decide +kernel
  rw [two] at found
  cases found
  decide +kernel

theorem malformedRequest_readable (value : Text)
    (found : malformedRequest.header? "content-length" = some value) (_ : value ≠ []) :
    (∀ c ∈ value, BodyLimit.isDigit c) → ∃ length, Integer.parse? value = some length :=
  fun _ => ⟨2, malformedRequest_length found⟩

theorem malformedRequest_reachesGate : plainApplication.ReachesGate malformedRequest where
  noPreflight origin method asked := absurd asked.1 (by decide +kernel)
  inLimit length declares := by
    obtain ⟨value, found, -, -, number⟩ := declares
    cases number.symm.trans (malformedRequest_length found)
    decide

theorem malformedRequest_refused :
    malformedRequest.context = none ∧
      (∀ value, malformedRequest.header? "content-length" = some value → value ≠ [] →
        (∀ c ∈ value, BodyLimit.isDigit c) → ∃ length, Integer.parse? value = some length) ∧
      ∃ answer, plainApplication.AnswersAlone
          (JwtProvider.plainProvider.toTokenProvider (.whole 0)) malformedRequest answer ∧
        answer.calls = [] ∧ ∀ response, answer.outcome = .ok response →
          response.status = 401 ∧ response.body = ApiCode.invalidExpiredToken.response.body :=
  ⟨rfl, malformedRequest_readable,
    (layers_precedence plainApplication JwtProvider.plainProvider (.whole 0) malformedRequest rfl
      malformedRequest_readable).refused malformedRequest_reachesGate (Text.lit "x")
      (some (.token .tooFewSegments)) (by decide +kernel) rfl⟩

end Application

end Tollgate
