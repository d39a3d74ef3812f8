import Tollgate.Proofs.Http.Verdict
import Tollgate.Proofs.Token.Crash

namespace Tollgate

open Traced

namespace Request

theorem urlPath_of_query {request : Request} {query : Text}
    (readable : Utf8.decode request.query = some query) : ∃ path, request.urlPath = .ok path := by
  unfold urlPath queryText
  rw [readable]
  exact ⟨_, rfl⟩

theorem urlPath_of_no_query {request : Request} (unreadable : Utf8.decode request.query = none) :
    request.urlPath = .error .undecodable := by
  unfold urlPath queryText
  rw [unreadable]
  rfl

end Request

namespace Gate

/-- The provider rejects the token: it is not valid, or no principal can be made of its claims. -/
inductive Rejects (provider : TokenProvider) (token : Text) : Prop where
  | validation (cause : Option Cause) :
    (provider.validateToken token).outcome = .error (.api .invalidExpiredToken cause) →
    Rejects provider token
  | authentication (claims : Json) (cause : Option Cause) :
    (provider.validateToken token).outcome = .ok claims → claims.isTruthy = true →
    (provider.getAuthentication token claims).outcome =
      .error (.api .invalidExpiredToken cause) →
    Rejects provider token

def rejection (path : Text) : LogRecord where
  level := .warning
  source := .gate
  message := Text.lit "UNAUTHORIZED: Expired or invalid JWT token. path=" ++ path

/-- The gate answers a request with the error of a bad token and leaves its context empty; the last
thing that it does is to log the path. -/
structure AnswersRejection (request : Request) (gate : Traced GateResult) : Prop where
  answered : ∃ response, response.Tells .invalidExpiredToken ∧
    gate.outcome =
      .ok { context := SecurityContext.empty request.number, response := some response }
  logged : ∃ events path, request.urlPath = .ok path ∧
    gate.events = events ++ [.logged (rejection path)]

section

variable (depth : Nat) {provider : TokenProvider} {request : Request} {token : Text}

theorem identify_of_rejects (request : Request) (rejects : Rejects provider token) :
    ∃ cause, (identify provider request token).outcome =
      .error (.api .invalidExpiredToken cause) := by
  unfold identify
  cases rejects with
  | validation cause invalid =>
    exact ⟨cause, by rw [bind_of_error invalid]⟩
  | authentication claims cause valid truthy nobody =>
    refine ⟨cause, ?_⟩
    simp only [bind_of_ok valid, truthy, if_true, bind_of_error nobody]

theorem screen_of_rejects
    (found : (provider.resolveToken request.headers).outcome = .ok (some token))
    (rejects : Rejects provider token) :
    ∃ events, screen provider request =
      ⟨events ++ (refuse request).events, (refuse request).outcome⟩ := by
  obtain ⟨cause, failed⟩ := identify_of_rejects request rejects
  unfold screen
  rw [bind_of_ok found]
  simp only [handle, failed]
  exact ⟨_, by rw [List.append_assoc]⟩

theorem authenticate_of_rejects
    (found : (provider.resolveToken request.headers).outcome = .ok (some token))
    (rejects : Rejects provider token) :
    ∃ events, authenticate depth provider request =
      ⟨events ++ (refuse request).events, (refuse request).outcome⟩ := by
  have recorded : Rejects (provider.recorded depth) token := by
    cases rejects with
    | validation cause invalid => exact .validation cause invalid
    | authentication claims cause valid truthy nobody =>
      exact .authentication claims cause valid truthy nobody
  exact screen_of_rejects found recorded

theorem answersRejection_of_query {query : Text}
    (found : (provider.resolveToken request.headers).outcome = .ok (some token))
    (rejects : Rejects provider token) (readable : Utf8.decode request.query = some query) :
    AnswersRejection request (authenticate depth provider request) := by
  obtain ⟨events, shape⟩ := authenticate_of_rejects depth found rejects
  obtain ⟨path, shown⟩ := Request.urlPath_of_query readable
  have refused : refuse request = ⟨[.logged (rejection path)],
      .ok { context := SecurityContext.empty request.number, response := some unauthorized }⟩ := by
    unfold refuse
    rw [shown]
    rfl
  rw [refused] at shape
  rw [shape]
  exact ⟨⟨_, ApiCode.response_tells .invalidExpiredToken, rfl⟩, events, path, shown, rfl⟩

theorem crash_of_no_query
    (found : (provider.resolveToken request.headers).outcome = .ok (some token))
    (rejects : Rejects provider token) (unreadable : Utf8.decode request.query = none) :
    (authenticate depth provider request).outcome = .error (.crash .undecodable) := by
  obtain ⟨events, shape⟩ := authenticate_of_rejects depth found rejects
  rw [shape]
  unfold refuse
  rw [Request.urlPath_of_no_query unreadable]
  rfl

end

/-- A rejected token is answered, with any host and any path, if the query of the request is UTF-8.
If it is not, the gate crashes over the path that it would log. -/
theorem rejection_answered_iff (depth : Nat) (provider : TokenProvider) (request : Request)
    (token : Text) (found : (provider.resolveToken request.headers).outcome = .ok (some token))
    (rejects : Rejects provider token) :
    (AnswersRejection request (authenticate depth provider request) ↔
      ∃ query, Utf8.decode request.query = some query) ∧
    (Utf8.decode request.query = none →
      (authenticate depth provider request).outcome = .error (.crash .undecodable)) := by
  refine ⟨⟨fun answers => ?_, fun ⟨query, readable⟩ =>
    answersRejection_of_query depth found rejects readable⟩, crash_of_no_query depth found rejects⟩
  cases decoded : Utf8.decode request.query with
  | some query => exact ⟨query, rfl⟩
  | none =>
    obtain ⟨response, -, answered⟩ := answers.answered
    cases (crash_of_no_query depth found rejects decoded).symm.trans answered

def plainGate : TokenProvider := JwtProvider.plainProvider.toTokenProvider (.whole 0)

def strangersRequest : Request where
  number := 0
  method := Text.lit "GET"
  path := Text.lit "/accounts/me"
  query := []
  headers := [(Text.lit "authorization", Text.lit "Bearer stranger")]
  chunks := []

theorem plainGate_rejects : Rejects plainGate (Text.lit "stranger") :=
  .validation (some (.token .tooFewSegments)) (by decide +kernel)

theorem plainGate_resolves :
    (plainGate.resolveToken strangersRequest.headers).outcome =
      .ok (some (Text.lit "stranger")) := by
  decide +kernel

theorem strangersRequest_answered :
    (plainGate.resolveToken strangersRequest.headers).outcome = .ok (some (Text.lit "stranger")) ∧
      Rejects plainGate (Text.lit "stranger") ∧
      AnswersRejection strangersRequest (authenticate 0 plainGate strangersRequest) :=
  ⟨plainGate_resolves, plainGate_rejects,
    (rejection_answered_iff 0 plainGate strangersRequest _ plainGate_resolves
      plainGate_rejects).1.mpr ⟨[], rfl⟩⟩

/-- A request with a rejected token gets no answer if a byte of its query is no UTF-8. -/
theorem undecodable_query_unanswered :
    (plainGate.resolveToken strangersRequest.headers).outcome = .ok (some (Text.lit "stranger")) ∧
      Rejects plainGate (Text.lit "stranger") ∧
      ¬ AnswersRejection { strangersRequest with query := [0xFF] }
        (authenticate 0 plainGate { strangersRequest with query := [0xFF] }) := by
  refine ⟨plainGate_resolves, plainGate_rejects, fun answers => ?_⟩
  obtain ⟨response, -, answered⟩ := answers.answered
  have crashed : (authenticate 0 plainGate { strangersRequest with query := [0xFF] }).outcome =
      .error (.crash .undecodable) :=
    crash_of_no_query 0 plainGate_resolves plainGate_rejects (by decide)
  cases crashed.symm.trans answered

section

variable {provider : JwtProvider} {now : Clock} {request : Request} {token : Text}

theorem resolution_of_found (found : JwtProvider.resolveToken request.headers = some token) :
    ((provider.toTokenProvider now).resolveToken request.headers).outcome = .ok (some token) :=
  congrArg Except.ok found

theorem rejects_of_settles (settles : provider.Settles now token)
    (invalid : ∀ claims, (provider.validateToken now token).outcome ≠ .ok claims) :
    Rejects (provider.toTokenProvider now) token := by
  rcases settles with ⟨claims, valid⟩ | ⟨cause, refused⟩
  · exact absurd valid (invalid claims)
  · refine .validation cause ?_
    rw [provider.toTokenProvider_validateToken, refused]
    rfl

theorem fault_of_not_settles {depth : Nat}
    (found : JwtProvider.resolveToken request.headers = some token)
    (unsettled : ¬ provider.Settles now token) :
    ∃ fault, (authenticate depth (provider.toTokenProvider now) request).outcome = .error fault ∧
      ((∃ crash, fault = .crash crash) ∨ provider.Unanswered now token fault) := by
  obtain ⟨fault, failed, kind⟩ := JwtProvider.exists_fault_of_not_settles unsettled
  refine ⟨fault, ?_, kind⟩
  have other (cause : Option Cause) : fault ≠ .api .invalidExpiredToken cause := by
    rcases kind with ⟨crash, rfl⟩ | unanswered
    · nofun
    · exact unanswered.other cause
  rw [authenticate_of_token _ found, identify_of_error _ failed]
  unfold handle
  dsimp only
  split
  · exact absurd rfl (other _)
  · rfl

end

/-- A token is accepted or refused, unless it is one of those on which validation crashes, or the
revocation check fails over its claims; a look-up in a list does not. With a refused token and a
query in UTF-8, the gate answers; with one that is neither, the fault goes through the gate. -/
theorem validation_settles_iff (provider : JwtProvider) (digest : Digest) (now : Clock)
    (token : Text) (algorithm : provider.algorithm = digest.algorithm)
    (plain : Token.IsPlain provider.secret) :
    (provider.Settles now token ↔
      token.hasSurrogate = false ∧ ¬ provider.CrashesOn digest now token ∧
        ∀ fault, ¬ provider.Unanswered now token fault) ∧
    (provider.ChecksAnswer → (provider.Settles now token ↔
      token.hasSurrogate = false ∧ ¬ provider.CrashesOn digest now token)) ∧
    ∀ depth request, JwtProvider.resolveToken request.headers = some token →
      (provider.Settles now token →
        (∀ claims, (provider.validateToken now token).outcome ≠ .ok claims) →
        ∀ query, Utf8.decode request.query = some query →
          AnswersRejection request (authenticate depth (provider.toTokenProvider now) request)) ∧
      (¬ provider.Settles now token → ∃ fault,
        (authenticate depth (provider.toTokenProvider now) request).outcome = .error fault ∧
          ((∃ crash, fault = .crash crash) ∨ provider.Unanswered now token fault)) := by
  have settles_iff : provider.Settles now token ↔ token.hasSurrogate = false ∧
      ¬ provider.CrashesOn digest now token ∧ ∀ fault, ¬ provider.Unanswered now token fault := by
    rw [JwtProvider.settles_iff, JwtProvider.crashes_decode_iff algorithm plain, not_or,
      Utf8.encode_ne_none_iff, and_assoc]
  refine ⟨settles_iff, fun answers => ?_, fun depth request found =>
    ⟨fun settles invalid query readable => ?_,
      fun unsettled => fault_of_not_settles found unsettled⟩⟩
  · rw [settles_iff]
    exact and_congr_right' (and_iff_left fun fault => answers.not_unanswered)
  · exact answersRejection_of_query depth (resolution_of_found found)
      (rejects_of_settles settles invalid) readable

def endlessToken : Text :=
  Text.lit "eyJhbGciOiJIUzI1NiIsInR5cCI6IkpXVCJ9" ++ Text.lit "." ++
    Text.lit "eyJzdWIiOiJhIiwiZXhwIjpudWxsfQ" ++ Text.lit "." ++
    Text.lit "UmNpVkyrJq7s35mUZPAjDd9G2Wgn8knJMC0x8brhx1o"

theorem endlessToken_crashes :
    Token.Crashes (JwtProvider.plainProvider.decode (.whole 0) endlessToken) :=
  ⟨.wrongType, by decide +kernel⟩

theorem endlessToken_uncheckable :
    JwtProvider.plainProvider.algorithm = Digest.sha256.algorithm ∧
      Token.IsPlain JwtProvider.plainProvider.secret ∧
      JwtProvider.plainProvider.CrashesOn .sha256 (.whole 0) endlessToken := by
  refine ⟨rfl, JwtProvider.plainProvider_isPlain, ?_⟩
  have settled := (validation_settles_iff JwtProvider.plainProvider .sha256 (.whole 0) endlessToken
    rfl JwtProvider.plainProvider_isPlain).2.1 (fun _ given => nomatch given)
  by_contra sound
  exact (JwtProvider.settles_iff.mp (settled.mpr ⟨by decide, sound⟩)).1 endlessToken_crashes

/-- A signed token can be neither accepted nor refused. -/
theorem endlessToken_unsettled :
    endlessToken.hasSurrogate = false ∧
      ¬ JwtProvider.plainProvider.Settles (.whole 0) endlessToken :=
  ⟨by decide, fun settles => (JwtProvider.settles_iff.mp settles).1 endlessToken_crashes⟩

end Gate

end Tollgate
