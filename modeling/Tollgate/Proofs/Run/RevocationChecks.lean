import Tollgate.Proofs.Http.DeclaredLimit
import Tollgate.Proofs.Http.Routes
import Tollgate.Proofs.Run.Identity
import Tollgate.Proofs.Token.Crash
import Tollgate.Proofs.Token.Verification

namespace Tollgate

open Traced

def StepRecord.checks (record : StepRecord) : List Members :=
  record.events.filterMap Event.revocationChecked?

namespace Gate

variable {provider : JwtProvider} {now : Clock} {request : Request} {token : Text}

theorem authenticate_checks_of_token (depth : Nat)
    (found : JwtProvider.resolveToken request.headers = some token) :
    (authenticate depth (provider.toTokenProvider now) request).checks =
      (provider.validateToken now token).checks := by
  unfold checks
  rw [authenticate_of_token depth found, filterMap_handle, identify_events]
  · rfl
  · intro fault
    split
    · exact (refuse_leaves request).mono fun _ logged => logged.isRouted.not_checked
    · exact leaves_of_nil rfl

theorem layer_checks (depth : Nat) (provider : TokenProvider) (arriving : request.context = none)
    {next : Handler} (quiet : ∀ request, (next request).Leaves Event.IsRouted) :
    (layer depth provider next request).checks = (authenticate depth provider request).checks := by
  rw [layer_of_new depth provider arriving]
  refine filterMap_bind fun result => ?_
  split
  · exact leaves_of_nil rfl
  · exact (quiet _).mono Event.IsRouted.not_checked

end Gate

namespace Application

/-- The request comes to the gate, and presents a token that is verified with these claims. -/
structure AsksAbout (app : Application) (provider : JwtProvider) (now : Clock) (request : Request)
    (claims : Members) : Prop where
  noPreflight : ∀ origin method, ¬ request.IsPreflight origin method
  within : request.IsWithin app.settings.maxBodyBytes
  verified : ∃ token, request.Presents token ∧ token ≠ [] ∧ token.trim = token ∧
    provider.IsVerified now token claims

/-- A request that presents a verified token leads to one check, of the claims as they stand in the
token. Any other request leads to none. -/
structure ChecksOnce (app : Application) (provider : JwtProvider) (now : Clock) (request : Request)
    (checks : List Members) : Prop where
  once : ∀ claims, app.AsksAbout provider now request claims → checks = [claims]
  never : (∀ claims, ¬ app.AsksAbout provider now request claims) → checks = []

/-- Over a run, the revocation check is asked once for each request that presents a verified token,
and not at all in any other step. Its answer is heeded: claims that are revoked, by their id or by
the host, do not come past the gate, and a host's check that fails ends the request. -/
structure ChecksVerified (app : Application) (start : RunState) (steps : List Step) : Prop where
  requests : ∀ k request, app.SendsAt start steps k request →
    let state := app.stateAfter start (steps.take k)
    ∃ record, (app.run start steps)[k]? = some record ∧
      app.ChecksOnce (app.providerAt state) state.now request record.checks
  others : ∀ k record, (app.run start steps)[k]? = some record →
    (∀ request, ¬ app.SendsAt start steps k request) → record.checks = []
  heeded : ∀ k request claims, app.SendsAt start steps k request →
    let state := app.stateAfter start (steps.take k)
    let provider := app.providerAt state
    app.AsksAbout provider state.now request claims → ¬ AreUnrevoked (steps.take k) claims →
    ∀ events context,
      ¬ app.PassesOn (provider.toTokenProvider state.now) request events context
  failed : ∀ k request claims fault, app.SendsAt start steps k request →
    let state := app.stateAfter start (steps.take k)
    app.AsksAbout (app.providerAt state) state.now request claims →
    .revoke (JwtProvider.tokenId? claims) ∉ steps.take k →
    hostCheck (steps.take k) claims = .error fault →
    (∀ cause, fault ≠ .api .invalidExpiredToken cause) →
    ∃ events, (app.run start steps)[k]? =
      some ⟨events, .answered Handler.serverError (some fault.fromCoroutine)⟩

section

variable {app : Application} {provider : JwtProvider} {now : Clock} {request : Request}

theorem handler_checks (arriving : request.context = none) (reaches : app.ReachesGate request)
    {length : Option Int} (declared : BodyLimit.declared request.headers = .ok length) :
    (app.handler (provider.toTokenProvider now) now request).checks =
      (Gate.authenticate 0 (provider.toTokenProvider now) request).checks := by
  have through : app.handler (provider.toTokenProvider now) now request = _ :=
    around_of_reachesGate (provider.toTokenProvider now) reaches declared _
  rw [through]
  exact Gate.layer_checks 0 (provider.toTokenProvider now) arriving (app.routes_leaves now)

theorem AsksAbout.reachesGate {claims : Members}
    (asks : app.AsksAbout provider now request claims) :
    app.ReachesGate request ∧ ∃ length, BodyLimit.declared request.headers = .ok length := by
  obtain ⟨declared, small⟩ := asks.within.exists_declared
  exact ⟨⟨asks.noPreflight, small⟩, declared⟩

theorem AsksAbout.exists_token {claims : Members}
    (asks : app.AsksAbout provider now request claims) :
    ∃ token, JwtProvider.resolveToken request.headers = some token ∧
      provider.decode now token = .ok claims := by
  obtain ⟨token, presents, nonempty, trimmed, verified⟩ := asks.verified
  exact ⟨token, JwtProvider.resolveToken_eq_some_iff.mpr ⟨presents, nonempty, trimmed⟩,
    JwtProvider.decode_ok_iff_isVerified.mpr verified⟩

theorem checks_of_asksAbout {check : RevocationCheck}
    (given : provider.revoked = some check) (arriving : request.context = none)
    {claims : Members} (asks : app.AsksAbout provider now request claims) :
    (app.handler (provider.toTokenProvider now) now request).checks = [claims] := by
  obtain ⟨reaches, length, declared⟩ := asks.reachesGate
  obtain ⟨token, found, decoded⟩ := asks.exists_token
  rw [handler_checks arriving reaches declared, Gate.authenticate_checks_of_token 0 found]
  exact JwtProvider.validateToken_checks_of_decode given decoded

theorem checks_of_not_asksAbout (arriving : request.context = none)
    (unasked : ∀ claims, ¬ app.AsksAbout provider now request claims) :
    (app.handler (provider.toTokenProvider now) now request).checks = [] := by
  rcases app.early_or_reachesGate request with ⟨answer, early⟩ | ⟨length, reaches, declared⟩
  · have alone : app.handler (provider.toTokenProvider now) now request = answer := early.alone _ _
    rw [alone, checks, early.silent]
    rfl
  · rw [handler_checks arriving reaches declared]
    cases found : JwtProvider.resolveToken request.headers with
    | none =>
      rw [Gate.authenticate_of_noToken 0 provider now found]
      rfl
    | some token =>
      rw [Gate.authenticate_checks_of_token 0 found]
      cases decoded : provider.decode now token with
      | error failure => exact JwtProvider.validateToken_checks_of_error decoded
      | ok claims =>
        obtain ⟨presents, nonempty, trimmed⟩ := JwtProvider.resolveToken_eq_some_iff.mp found
        have within := Request.isWithin_of_declared declared reaches.inLimit
        exact absurd ⟨reaches.noPreflight, within, token, presents, nonempty, trimmed,
          JwtProvider.decode_ok_iff_isVerified.mp decoded⟩ (unasked claims)

theorem AsksAbout.isUnrevoked_of_passesOn {claims : Members} {events : List Event}
    {context : SecurityContext} (asks : app.AsksAbout provider now request claims)
    (arriving : request.context = none)
    (passes : app.PassesOn (provider.toTokenProvider now) request events context) :
    provider.IsUnrevoked claims := by
  obtain ⟨token, found, decoded⟩ := asks.exists_token
  have admission : app.Admission provider now request := app.admission arriving
  cases admission with
  | refused answer alone refusal => exact absurd passes alone.not_passesOn
  | anonymous noToken => cases noToken.symm.trans found
  | identified other claims principal alsoFound valid =>
    cases alsoFound.symm.trans found
    obtain ⟨alsoDecoded, unrevoked, -⟩ := JwtProvider.validateToken_ok.mp valid
    cases alsoDecoded.symm.trans decoded
    exact JwtProvider.checkRevocation_ok_iff.mp unrevoked

theorem AsksAbout.serve_of_failed {claims : Members} {check : RevocationCheck} {fault : Fault}
    (asks : app.AsksAbout provider now request claims) (arriving : request.context = none)
    (given : provider.revoked = some check) (failed : check claims = .error fault)
    (other : ∀ cause, fault ≠ .api .invalidExpiredToken cause) :
    ∃ events, (app.handler (provider.toTokenProvider now) now).serve request =
      ⟨events, Handler.serverError, some fault.fromCoroutine⟩ := by
  obtain ⟨reaches, length, declared⟩ := asks.reachesGate
  obtain ⟨token, found, decoded⟩ := asks.exists_token
  have unanswered : provider.Unanswered now token fault :=
    ⟨⟨check, claims, given, decoded, failed⟩, other⟩
  have alone := around_of_fault arriving reaches declared found unanswered.validateToken other
  have through : app.handler (provider.toTokenProvider now) now request = _ := alone _
  exact ⟨_, by rw [Handler.serve_of_error (congrArg Traced.outcome through), through]⟩

end

section

variable {app : Application} {state : RunState}

theorem step_checksOnce {draft : Draft} {request : Request} {check : RevocationCheck}
    (given : (app.providerAt state).revoked = some check)
    (sent : draft.request? app.settings state = some request) :
    app.ChecksOnce (app.providerAt state) state.now request
      (app.step state (.request draft)).2.checks := by
  have arriving := request_context sent
  let provider := (app.providerAt state).toTokenProvider state.now
  have same : (app.step state (.request draft)).2.checks =
      (app.handler provider state.now request).checks := by
    rw [step_request sent]
    exact congrArg (List.filterMap Event.revocationChecked?) (Handler.serve_events _ request)
  rw [same]
  exact ⟨fun claims => checks_of_asksAbout given arriving, checks_of_not_asksAbout arriving⟩

theorem step_checks_of_unsent {s : Step}
    (unsent : ∀ draft request, s = .request draft →
      draft.request? app.settings state ≠ some request) : (app.step state s).2.checks = [] := by
  cases s with
  | setClock now => rfl
  | setCheck check => rfl
  | revoke tokenId => rfl
  | issue name subject authorities tokenId =>
    simp only [step]
    split <;> rfl
  | request draft =>
    cases sent : draft.request? app.settings state with
    | some request => exact absurd sent (unsent draft request rfl)
    | none =>
      simp only [step, sent]
      rfl

end

/-- In every run with a revocation check, the check is asked once per request at most: about the
claims of a token that is verified, whether or not its authorities are well formed. -/
theorem revocation_checked_once (app : Application) (now : Clock) (steps : List Step) :
    app.ChecksVerified (initial now true) steps := by
  constructor
  case requests =>
    rintro k request ⟨draft, here, sent⟩ state
    have given := revocation?_of_initial app now (steps.take k)
    refine ⟨_, ?_, step_checksOnce given sent⟩
    rw [getElem?_run, here]
    rfl
  case others =>
    intro k record recorded unsent
    rw [getElem?_run] at recorded
    obtain ⟨s, here, rfl⟩ := Option.map_eq_some_iff.mp recorded
    refine step_checks_of_unsent fun draft request same sent => unsent request ⟨draft, ?_, sent⟩
    rw [here, same]
  case heeded =>
    intro k request claims sent state provider asks revoked events context passes
    exact revoked (isUnrevoked_initial_iff.mp
      (asks.isUnrevoked_of_passesOn sent.context_eq_none passes))
  case failed =>
    intro k request claims fault sent state asks unlisted failed other
    have unrevoked : JwtProvider.tokenId? claims ∉ (steps.take k).filterMap Step.revoked? :=
      fun member => unlisted (mem_revocations.mp member)
    have answer : (hostCheck (steps.take k)).orListed ((steps.take k).filterMap Step.revoked?)
        claims = .error fault := by
      unfold RevocationCheck.orListed
      rw [if_neg unrevoked, failed]
    obtain ⟨events, served⟩ := asks.serve_of_failed sent.context_eq_none
      (revocation?_of_initial app now (steps.take k)) answer other
    exact ⟨events, (getElem?_run_request sent).trans (by rw [served])⟩

def malformedToken : Text :=
  Text.lit "eyJhbGciOiJIUzI1NiIsInR5cCI6IkpXVCJ9" ++ Text.lit "." ++
    Text.lit "eyJzdWIiOiJhIiwiZXhwIjowLCJhdXRoIjo3fQ" ++ Text.lit "." ++
    Text.lit "LHcjOZT9Q7BZUBWGqUdMiBg6Mq4T22ONEimf6OE05sw"

def malformedClaims : Members := JwtProvider.claimsUntil 0 ++ [(Text.lit "auth", .integer 7)]

def visitWith (headers : Headers) : Draft := { accountDraft with headers, bearer := none }

def malformedVisits : List Step :=
  [.request (visitWith [(Text.lit "authorization", Text.lit "Bearer " ++ malformedToken)]),
    .request (visitWith [])]

theorem malformed_token_checked :
    JwtProvider.authorities? malformedClaims = none ∧
      (∃ record, (plainApplication.run (initial (.whole 0) true) malformedVisits)[0]? =
        some record ∧ record.checks = [malformedClaims]) ∧
      ∃ record, (plainApplication.run (initial (.whole 0) true) malformedVisits)[1]? =
        some record ∧ record.checks = [] := by
  have checked := (revocation_checked_once plainApplication (.whole 0) malformedVisits).requests
  refine ⟨rfl, ?_, ?_⟩
  · let request : Request := ⟨0, Text.lit "GET", Text.lit "/accounts/me", [],
      [(Text.lit "authorization", Text.lit "Bearer " ++ malformedToken)], [[]], none⟩
    have found : JwtProvider.resolveToken request.headers = some malformedToken := by
      decide +kernel
    let provider := plainApplication.providerAt (initial (.whole 0) true)
    have decoded : provider.decode (.whole 0) malformedToken = .ok malformedClaims :=
      eq_ok_of_toOption (by decide +kernel)
    obtain ⟨presents, nonempty, trimmed⟩ := JwtProvider.resolveToken_eq_some_iff.mp found
    have asks : plainApplication.AsksAbout provider (.whole 0) request malformedClaims := by
      have reaches : plainApplication.ReachesGate request :=
        reachesGate_of_asksForAccount ⟨rfl, rfl⟩ rfl
      exact ⟨reaches.noPreflight, .undeclared rfl, malformedToken, presents, nonempty, trimmed,
        JwtProvider.decode_ok_iff_isVerified.mp decoded⟩
    obtain ⟨record, recorded, counted⟩ := checked 0 request ⟨_, rfl, rfl⟩
    exact ⟨record, recorded, counted.once _ asks⟩
  · obtain ⟨record, recorded, counted⟩ := checked 1
      ⟨1, Text.lit "GET", Text.lit "/accounts/me", [], [], [[]], none⟩ ⟨_, rfl, rfl⟩
    refine ⟨record, recorded, counted.never fun claims asks => ?_⟩
    obtain ⟨token, ⟨scheme, before, after, here, -⟩, -⟩ := asks.verified
    cases here

end Application

end Tollgate
