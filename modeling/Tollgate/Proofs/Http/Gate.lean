import Tollgate.Http.Gate
import Tollgate.Proofs.Token.Validation

namespace Tollgate

open Traced

theorem JwtProvider.toTokenProvider_validateToken (provider : JwtProvider) (now : Clock)
    (token : Text) :
    (provider.toTokenProvider now).validateToken token =
      ⟨(provider.validateToken now token).events,
        (provider.validateToken now token).outcome.map .object⟩ :=
  bind_pure_eq (provider.validateToken now token) Json.object

theorem TokenProvider.recorded_validateToken (provider : TokenProvider) (number : Nat)
    (token : Text) : (provider.recorded number).validateToken token =
      ⟨.validated number :: (provider.validateToken token).events,
        (provider.validateToken token).outcome⟩ :=
  rfl

namespace Gate

section

variable {provider : JwtProvider} {now : Clock} {request : Request} {token : Text}

theorem identify_of_error (depth : Nat) {fault : Fault}
    (refused : (provider.validateToken now token).outcome = .error fault) :
    identify ((provider.toTokenProvider now).recorded depth) request token =
      ⟨.validated depth :: (provider.validateToken now token).events, .error fault⟩ := by
  have validation := (provider.toTokenProvider now).recorded_validateToken depth token
  rw [provider.toTokenProvider_validateToken, refused] at validation
  unfold identify
  rw [validation]
  rfl

theorem identify_of_ok (depth : Nat) {claims : Members}
    (valid : (provider.validateToken now token).outcome = .ok claims) :
    ∃ principal : Principal, claims.at? "sub" = some principal.subject ∧
      Token.Grants claims principal.authorities ∧
      identify ((provider.toTokenProvider now).recorded depth) request token =
        ⟨.validated depth :: (provider.validateToken now token).events,
          .ok { context := (SecurityContext.empty request.number).authenticate principal }⟩ := by
  obtain ⟨principal, subject, grants, named⟩ := JwtProvider.exists_principal valid
  have validation := (provider.toTokenProvider now).recorded_validateToken depth token
  have truthy := JwtProvider.isTruthy_of_subject subject
  have authentication : ((provider.toTokenProvider now).recorded depth).getAuthentication token
      (.object claims) = pure principal := named
  rw [provider.toTokenProvider_validateToken, valid] at validation
  refine ⟨principal, subject, grants, ?_⟩
  unfold identify
  rw [validation]
  simp only [Except.map, ok_bind, truthy, if_true, authentication, List.append_nil,
    pure_bind, pure_events, pure_outcome]

theorem refuse_cases (request : Request) :
    (∃ crash, refuse request = ⟨[], .error (.crash crash)⟩) ∨
      ∃ record, refuse request = ⟨[.logged record],
        .ok { context := SecurityContext.empty request.number
              response := some unauthorized }⟩ := by
  unfold refuse
  -- the log record shows the path, which a query that is not UTF-8 leaves without
  cases request.urlPath with
  | error crash => exact .inl ⟨crash, rfl⟩
  | ok path => exact .inr ⟨_, rfl⟩

theorem refuse_leaves (request : Request) : (refuse request).Leaves Event.IsLogged := by
  rcases refuse_cases request with ⟨crash, crashed⟩ | ⟨record, answered⟩
  · rw [crashed]
    exact leaves_of_nil rfl
  · rw [answered]
    intro event member
    cases List.mem_singleton.mp member
    trivial

theorem identify_events (depth : Nat) (provider : JwtProvider) (now : Clock) (request : Request)
    (token : Text) :
    (identify ((provider.toTokenProvider now).recorded depth) request token).events =
      .validated depth :: (provider.validateToken now token).events := by
  cases outcome : (provider.validateToken now token).outcome with
  | error fault => rw [identify_of_error depth outcome]
  | ok claims =>
    obtain ⟨principal, -, -, identified⟩ :=
      @identify_of_ok provider now request token depth claims outcome
    rw [identified]

theorem layer_of_new (depth : Nat) (provider : TokenProvider) (arriving : request.context = none)
    (next : Handler) :
    layer depth provider next request = authenticate depth provider request >>= fun result =>
      match result.response with
      | some response => pure response
      | none => next { request with context := some result.context } := by
  cases request
  cases arriving
  rfl

theorem authenticate_of_token (depth : Nat)
    (found : JwtProvider.resolveToken request.headers = some token) :
    authenticate depth (provider.toTokenProvider now) request =
      (identify ((provider.toTokenProvider now).recorded depth) request token).handle fun
        | .api .invalidExpiredToken _ => refuse request
        | fault => Traced.fail fault := by
  have resolution : ((provider.toTokenProvider now).recorded depth).resolveToken request.headers =
      pure (some token) := congrArg pure found
  unfold authenticate screen
  rw [resolution]
  rfl

theorem authenticate_of_noToken (depth : Nat) (provider : JwtProvider) (now : Clock)
    (noToken : JwtProvider.resolveToken request.headers = none) :
    authenticate depth (provider.toTokenProvider now) request =
      pure { context := SecurityContext.empty request.number } := by
  have resolution : ((provider.toTokenProvider now).recorded depth).resolveToken request.headers =
      pure none := congrArg pure noToken
  unfold authenticate screen
  rw [resolution]
  rfl

theorem layer_of_anonymous (depth : Nat) (arriving : request.context = none)
    (noToken : JwtProvider.resolveToken request.headers = none) (next : Handler) :
    layer depth (provider.toTokenProvider now) next request =
      next { request with context := some (SecurityContext.empty request.number) } := by
  rw [layer_of_new _ _ arriving, authenticate_of_noToken depth provider now noToken]
  rfl

theorem layer_of_identified (depth : Nat) {claims : Members} (arriving : request.context = none)
    (found : JwtProvider.resolveToken request.headers = some token)
    (valid : (provider.validateToken now token).outcome = .ok claims) :
    ∃ principal : Principal, claims.at? "sub" = some principal.subject ∧
      Token.Grants claims principal.authorities ∧
      ∀ next, layer depth (provider.toTokenProvider now) next request =
        ⟨.validated depth :: (provider.validateToken now token).events, .ok ()⟩ >>= fun _ =>
          next { request with
            context := some ((SecurityContext.empty request.number).authenticate principal) } := by
  obtain ⟨principal, subject, grants, identified⟩ := identify_of_ok depth valid
  refine ⟨principal, subject, grants, fun next => ?_⟩
  rw [layer_of_new _ _ arriving, authenticate_of_token _ found, identified]
  rfl

theorem layer_of_fault (depth : Nat) {fault : Fault} (arriving : request.context = none)
    (found : JwtProvider.resolveToken request.headers = some token)
    (failed : (provider.validateToken now token).outcome = .error fault)
    (other : ∀ cause, fault ≠ .api .invalidExpiredToken cause) (next : Handler) :
    layer depth (provider.toTokenProvider now) next request =
      ⟨.validated depth :: (provider.validateToken now token).events, .error fault⟩ := by
  rw [layer_of_new _ _ arriving, authenticate_of_token _ found, identify_of_error _ failed]
  unfold handle
  dsimp only
  split
  · rename_i cause
    exact absurd rfl (other cause)
  · simp only [fail_eq, error_bind, List.append_nil]

theorem layer_of_refused (depth : Nat) {cause : Option Cause} (arriving : request.context = none)
    (found : JwtProvider.resolveToken request.headers = some token)
    (refused : (provider.validateToken now token).outcome =
      .error (.api .invalidExpiredToken cause)) :
    (∃ crash, ∀ next, layer depth (provider.toTokenProvider now) next request =
      ⟨.validated depth :: (provider.validateToken now token).events, .error (.crash crash)⟩) ∨
    ∃ record, ∀ next, layer depth (provider.toTokenProvider now) next request =
      ⟨.validated depth :: (provider.validateToken now token).events ++ [.logged record],
        .ok unauthorized⟩ := by
  have step (next : Handler) := layer_of_new depth (provider.toTokenProvider now) arriving next
  rw [authenticate_of_token _ found, identify_of_error _ refused] at step
  rcases refuse_cases request with ⟨crash, crashed⟩ | ⟨record, answered⟩
  · refine .inl ⟨crash, fun next => ?_⟩
    rw [step]
    simp only [handle, crashed, error_bind, List.append_nil]
  · refine .inr ⟨record, fun next => ?_⟩
    rw [step]
    simp only [handle, answered, ok_bind, pure_events, pure_outcome, List.append_nil]

end

end Gate

end Tollgate
