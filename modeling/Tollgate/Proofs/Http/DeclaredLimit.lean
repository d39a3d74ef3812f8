import Tollgate.Proofs.Http.Deliveries

namespace Tollgate

/-- The length of the body is not declared, is declared by something that is no row of digits, or is
declared to be within the limit. -/
inductive Request.IsWithin (request : Request) (limit : Int) : Prop where
  | undeclared : request.header? "content-length" = none → IsWithin request limit
  | unreadable (value : Text) : request.header? "content-length" = some value →
    ¬ (value ≠ [] ∧ ∀ c ∈ value, BodyLimit.isDigit c) → IsWithin request limit
  | small (length : Int) : request.Declares length → length ≤ limit → IsWithin request limit

def Exchange.IsTooLarge (exchange : Exchange) : Prop :=
  exchange.response.Tells .payloadTooLarge ∧ exchange.raised = none ∧
    exchange.events.filterMap Event.billed? = []

theorem Request.Declares.unique {request : Request} {length other : Int}
    (declares : request.Declares length) (also : request.Declares other) : length = other := by
  obtain ⟨value, here, -, -, number⟩ := declares
  obtain ⟨_, same, -, -, also⟩ := also
  cases here.symm.trans same
  exact Option.some.inj (number.symm.trans also)

theorem Request.IsWithin.exists_declared {request : Request} {limit : Int}
    (within : request.IsWithin limit) :
    (∃ length, BodyLimit.declared request.headers = .ok length) ∧
      ∀ length, request.Declares length → length ≤ limit := by
  cases within with
  | undeclared absent =>
    refine ⟨BodyLimit.exists_declared fun value here => ?_, fun length declares => ?_⟩
    · cases absent.symm.trans here
    · obtain ⟨value, here, -⟩ := declares
      cases absent.symm.trans here
  | unreadable value here noRow =>
    refine ⟨BodyLimit.exists_declared fun other same nonempty digits => ?_,
      fun length declares => ?_⟩
    · cases here.symm.trans same
      exact absurd ⟨nonempty, digits⟩ noRow
    · obtain ⟨_, same, nonempty, digits, -⟩ := declares
      cases here.symm.trans same
      exact absurd ⟨nonempty, digits⟩ noRow
  | small length declares small =>
    refine ⟨⟨some length, BodyLimit.declared_of_declares declares⟩, fun other also => ?_⟩
    rw [also.unique declares]
    exact small

theorem Request.isWithin_of_declared {request : Request} {limit : Int} {length : Option Int}
    (declared : BodyLimit.declared request.headers = .ok length)
    (small : ∀ length, request.Declares length → length ≤ limit) : request.IsWithin limit := by
  cases length with
  | some length =>
    have declares := BodyLimit.declares_of_declared declared
    exact .small length declares (small length declares)
  | none =>
    cases here : request.header? "content-length" with
    | none => exact .undeclared here
    | some value =>
      refine .unreadable value here fun row => ?_
      have digits : (!value.isEmpty && value.all BodyLimit.isDigit) = true := by
        simpa [row.1] using row.2
      unfold Request.header? at here
      simp only [BodyLimit.declared, here, digits, if_true] at declared
      split at declared <;> cases declared

namespace Application

variable {app : Application} {provider : TokenProvider} {now : Clock} {request : Request}

def unlimited (app : Application) (provider : TokenProvider) (now : Clock) : Handler :=
  Cors.layer app.settings.origins <|
    Gate.layer 0 provider <| Handler.reportErrors <| Router.handle (app.routes now)

theorem AnswersAlone.serve_eq {response : Response}
    (alone : app.AnswersAlone provider request (pure response)) (now : Clock) :
    (app.handler provider now).serve request = ⟨[], response, none⟩ := by
  have through : app.handler provider now request = pure response := alone _
  rw [Handler.serve_of_ok (congrArg Traced.outcome through), through, Traced.pure_events]

theorem serve_tooLarge {length : Int} (provider : TokenProvider) (now : Clock)
    (noPreflight : ∀ origin method, ¬ request.IsPreflight origin method)
    (declares : request.Declares length) (large : app.settings.maxBodyBytes < length) :
    ((app.handler provider now).serve request).IsTooLarge := by
  have alone := around_of_large provider noPreflight declares large
  rw [alone.serve_eq now]
  exact ⟨(ApiCode.response_tells .payloadTooLarge).withHeaders _, rfl, rfl⟩

theorem handler_eq_unlimited (provider : TokenProvider) (now : Clock)
    (noPreflight : ∀ origin method, ¬ request.IsPreflight origin method)
    (within : request.IsWithin app.settings.maxBodyBytes) :
    app.handler provider now request = app.unlimited provider now request := by
  obtain ⟨⟨length, declared⟩, small⟩ := within.exists_declared
  unfold handler unlimited
  rw [Cors.layer_of_other noPreflight, Cors.layer_of_other noPreflight,
    BodyLimit.layer_of_small declared small]

/-- The limit goes by what a request declares, whatever its body is and in whatever chunks it
comes. -/
structure GoesByDeclaration (app : Application) (provider : TokenProvider) (now : Clock)
    (request : Request) : Prop where
  tooLarge : ∀ length, request.Declares length → app.settings.maxBodyBytes < length → ∀ chunks,
    ((app.handler provider now).serve { request with chunks }).IsTooLarge
  passed : request.IsWithin app.settings.maxBodyBytes → ∀ chunks,
    app.handler provider now { request with chunks } =
      app.unlimited provider now { request with chunks }

/-- A request that declares too much is refused and not billed. The body of any other request is not
limited at all. -/
theorem limit_goes_by_declaration (app : Application) (provider : TokenProvider) (now : Clock)
    (request : Request) (noPreflight : ∀ origin method, ¬ request.IsPreflight origin method) :
    app.GoesByDeclaration provider now request := by
  constructor
  case tooLarge =>
    intro length declares large chunks
    exact serve_tooLarge provider now noPreflight declares large
  case passed =>
    intro within chunks
    have still : Request.IsWithin { request with chunks } app.settings.maxBodyBytes := by
      cases within with
      | undeclared absent => exact .undeclared absent
      | unreadable value here noRow => exact .unreadable value here noRow
      | small length declares small => exact .small length declares small
    exact handler_eq_unlimited provider now noPreflight still

def narrowApplication : Application where
  settings := { plainApplication.settings with maxBodyBytes := 16 }
  logThreshold := 20
  billing := some fun _ => .ok ()

def overstatedRequest : Request where
  number := 0
  method := Text.lit "POST"
  path := Text.lit "/webhooks/stripe"
  query := []
  headers := [(Text.lit "content-length", Text.lit "17"),
    (Text.lit "content-length", Text.lit "1")]
  chunks := [[0x7B], [], [0x7D]]

theorem overstatedRequest_tooLarge :
    (∀ origin method, ¬ overstatedRequest.IsPreflight origin method) ∧
      overstatedRequest.Declares 17 ∧
      ((narrowApplication.handler (JwtProvider.plainProvider.toTokenProvider (.whole 0))
        (.whole 0)).serve overstatedRequest).IsTooLarge := by
  have noPreflight (origin method : Text) : ¬ overstatedRequest.IsPreflight origin method :=
    fun asked => absurd asked.1 (by decide)
  have digits : (Text.lit "17").all BodyLimit.isDigit = true := by decide
  have declares : overstatedRequest.Declares 17 :=
    ⟨Text.lit "17", rfl, by decide, List.all_eq_true.mp digits, by decide +kernel⟩
  exact ⟨noPreflight, declares, (limit_goes_by_declaration narrowApplication _ (.whole 0)
    overstatedRequest noPreflight).tooLarge 17 declares (by decide) overstatedRequest.chunks⟩

/-- A body above the limit is refused, whatever the request declares. -/
def LimitsBody (app : Application) (provider : TokenProvider) (now : Clock)
    (request : Request) : Prop :=
  app.settings.maxBodyBytes < request.body.length →
    ((app.handler provider now).serve request).IsTooLarge

/-- A signed cancellation that declares no length is received and billed, far above the limit. -/
theorem undeclared_body_not_limited :
    ¬ narrowApplication.LimitsBody (JwtProvider.plainProvider.toTokenProvider (.whole 1700000000))
      (.whole 1700000000) cancellationRequest := by
  intro limits
  have refused := limits (by decide)
  have received : ((narrowApplication.handler
      (JwtProvider.plainProvider.toTokenProvider (.whole 1700000000))
      (.whole 1700000000)).serve cancellationRequest).response.status = 200 := by
    decide +kernel
  exact absurd (refused.1.1.symm.trans received) (by decide)

end Application

end Tollgate
