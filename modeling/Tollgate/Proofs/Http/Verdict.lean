import Tollgate.Proofs.Http.Deliveries

namespace Tollgate

open Traced

theorem Token.Grants.mem_iff {claims : Members} {names : List Text} (grants : Grants claims names)
    (authority : Text) : authority ∈ names ↔ claims.at? "auth" = some (.text authority) ∨
      ∃ items, claims.at? "auth" = some (.list items) ∧ .text authority ∈ items := by
  rcases grants with absent | null | single | list
  · simp [absent]
  · simp [null]
  · simp [single, eq_comm]
  · simp [list]

namespace Gate

structure IsAnonymous (request : Request) (result : GateResult) : Prop where
  noToken : JwtProvider.resolveToken request.headers = none
  context : result.context = SecurityContext.empty request.number
  passes : result.response = none

/-- The token of the request is good, and the request goes on with the principal that the claims
name. What the principal may do is what the signed claims say. -/
structure IsIdentified (provider : JwtProvider) (digest : Digest) (now : Clock) (request : Request)
    (result : GateResult) (token : Text) (claims : Members) (principal : Principal) : Prop where
  found : JwtProvider.resolveToken request.headers = some token
  valid : (provider.validateToken now token).outcome = .ok claims
  signed : ∃ second, now.second = .ok second ∧ provider.Accepts digest second token claims
  subject : ∃ name, claims.at? "sub" = some (.text name) ∧ principal.subject = .text name
  authorities : Token.Grants claims principal.authorities
  hasAuthority : ∀ authority, principal.hasAuthority authority = true ↔
    claims.at? "auth" = some (.text authority) ∨
      ∃ items, claims.at? "auth" = some (.list items) ∧ .text authority ∈ items
  context : result.context = (SecurityContext.empty request.number).authenticate principal
  passes : result.response = none

structure IsRefused (provider : JwtProvider) (now : Clock) (request : Request)
    (result : GateResult) (token : Text) : Prop where
  found : JwtProvider.resolveToken request.headers = some token
  invalid : ∀ claims, (provider.validateToken now token).outcome ≠ .ok claims
  context : result.context = SecurityContext.empty request.number
  answered : ∃ response, result.response = some response ∧ response.Tells .invalidExpiredToken

inductive Verdict where
  | anonymous
  | identified
  | refused

def Verdict.Fits (provider : JwtProvider) (digest : Digest) (now : Clock) (request : Request)
    (result : GateResult) : Verdict → Prop
  | anonymous => IsAnonymous request result
  | identified => ∃ token claims principal,
    IsIdentified provider digest now request result token claims principal
  | refused => ∃ token, IsRefused provider now request result token

section

variable {provider : JwtProvider} {digest : Digest} {now : Clock} {request : Request}
  {result : GateResult}

theorem IsIdentified.not_isRefused {token another : Text} {claims : Members} {principal : Principal}
    (identified : IsIdentified provider digest now request result token claims principal) :
    ¬ IsRefused provider now request result another := by
  intro refused
  cases identified.found.symm.trans refused.found
  exact refused.invalid claims identified.valid

theorem Verdict.Fits.unique {verdict other : Verdict}
    (fits : verdict.Fits provider digest now request result)
    (also : other.Fits provider digest now request result) : verdict = other := by
  cases verdict with
  | anonymous =>
    cases other with
    | anonymous => rfl
    | identified =>
      obtain ⟨token, claims, principal, identified⟩ := also
      cases fits.noToken.symm.trans identified.found
    | refused =>
      obtain ⟨token, refused⟩ := also
      cases fits.noToken.symm.trans refused.found
  | identified =>
    obtain ⟨token, claims, principal, identified⟩ := fits
    cases other with
    | anonymous => cases also.noToken.symm.trans identified.found
    | identified => rfl
    | refused =>
      obtain ⟨another, refused⟩ := also
      exact absurd refused identified.not_isRefused
  | refused =>
    obtain ⟨token, refused⟩ := fits
    cases other with
    | anonymous => cases also.noToken.symm.trans refused.found
    | identified =>
      obtain ⟨another, claims, principal, identified⟩ := also
      exact absurd refused identified.not_isRefused
    | refused => rfl

theorem isAnonymous_of_noToken {depth : Nat}
    (noToken : JwtProvider.resolveToken request.headers = none)
    (returned : (authenticate depth (provider.toTokenProvider now) request).outcome = .ok result) :
    IsAnonymous request result := by
  rw [authenticate_of_noToken depth provider now noToken] at returned
  cases returned
  exact ⟨noToken, rfl, rfl⟩

theorem isIdentified_of_valid {depth : Nat} (algorithm : provider.algorithm = digest.algorithm)
    (plain : Token.IsPlain provider.secret) {token : Text} {claims : Members}
    (found : JwtProvider.resolveToken request.headers = some token)
    (valid : (provider.validateToken now token).outcome = .ok claims)
    (returned : (authenticate depth (provider.toTokenProvider now) request).outcome = .ok result) :
    ∃ principal, IsIdentified provider digest now request result token claims principal := by
  rw [authenticate_of_token _ found] at returned
  obtain ⟨principal, named, grants, identified⟩ := identify_of_ok depth valid
  obtain ⟨name, subject⟩ := JwtProvider.exists_subject valid
  rw [identified] at returned
  cases returned
  exact ⟨principal,
    { found
      valid
      signed := (JwtProvider.validateToken_ok_iff_accepts digest algorithm plain).mp valid
      subject := ⟨name, subject, Option.some.inj (named.symm.trans subject)⟩
      authorities := grants
      hasAuthority := fun authority => List.elem_iff.trans (grants.mem_iff authority)
      context := rfl
      passes := rfl }⟩

theorem isRefused_of_error {depth : Nat} {token : Text} {fault : Fault}
    (found : JwtProvider.resolveToken request.headers = some token)
    (failed : (provider.validateToken now token).outcome = .error fault)
    (returned : (authenticate depth (provider.toTokenProvider now) request).outcome = .ok result) :
    IsRefused provider now request result token := by
  have invalid (claims : Members) : (provider.validateToken now token).outcome ≠ .ok claims :=
    fun valid => nomatch failed.symm.trans valid
  rw [authenticate_of_token _ found, identify_of_error _ failed] at returned
  unfold handle at returned
  dsimp only at returned
  -- a fault other than a bad token ends the gate, and then nothing is returned
  split at returned
  · rcases refuse_cases request with ⟨crash, crashed⟩ | ⟨record, refused⟩
    · rw [crashed] at returned
      cases returned
    · rw [refused] at returned
      cases returned
      exact ⟨found, invalid, rfl, _, rfl, ApiCode.response_tells .invalidExpiredToken⟩
  · cases returned

/-- Whenever the gate returns, it has given one verdict; a request with a token has been answered,
or goes on with a principal. -/
theorem authenticate_verdict (depth : Nat) (provider : JwtProvider) (digest : Digest)
    (now : Clock) (request : Request) (result : GateResult)
    (algorithm : provider.algorithm = digest.algorithm)
    (plain : Token.IsPlain provider.secret)
    (returned : (authenticate depth (provider.toTokenProvider now) request).outcome = .ok result) :
    (∃! verdict : Verdict, verdict.Fits provider digest now request result) ∧
      ∀ token, JwtProvider.resolveToken request.headers = some token →
        result.response = none → result.context.isAuthenticated = true := by
  cases found : JwtProvider.resolveToken request.headers with
  | none =>
    have fits : Verdict.anonymous.Fits provider digest now request result :=
      isAnonymous_of_noToken found returned
    exact ⟨⟨.anonymous, fits, fun _ also => Verdict.Fits.unique also fits⟩, nofun⟩
  | some token =>
    cases validation : (provider.validateToken now token).outcome with
    | ok claims =>
      obtain ⟨principal, identified⟩ :=
        isIdentified_of_valid algorithm plain found validation returned
      have fits : Verdict.identified.Fits provider digest now request result :=
        ⟨token, claims, principal, identified⟩
      refine ⟨⟨.identified, fits, fun _ also => Verdict.Fits.unique also fits⟩, ?_⟩
      intro _ _ _
      rw [identified.context]
      rfl
    | error fault =>
      have refused := isRefused_of_error found validation returned
      have fits : Verdict.refused.Fits provider digest now request result := ⟨token, refused⟩
      refine ⟨⟨.refused, fits, fun _ also => Verdict.Fits.unique also fits⟩, ?_⟩
      intro _ _ passes
      obtain ⟨response, answered, -⟩ := refused.answered
      cases passes.symm.trans answered

end

def tokenOfAda : Text :=
  Text.lit "eyJhbGciOiJIUzI1NiIsInR5cCI6IkpXVCJ9" ++ Text.lit "." ++
    Text.lit "eyJzdWIiOiJhZGEiLCJhdXRoIjpbIktFWVMiLCJVU0VSIl0sImV4cCI6MH0" ++ Text.lit "." ++
    Text.lit "3J3YWXnI0AiHgCTWFp--iaVVjiz31w62lC3g8-oacMI"

def claimsOfAda : Members :=
  [(Text.lit "sub", .lit "ada"), (Text.lit "auth", .list [.lit "KEYS", .lit "USER"]),
    (Text.lit "exp", .integer 0)]

def requestOfAda : Request where
  number := 0
  method := Text.lit "GET"
  path := Text.lit "/accounts/me"
  query := []
  headers := [(Text.lit "authorization", Text.lit "BEARER  " ++ tokenOfAda ++ Text.lit "\t")]
  chunks := []

theorem requestOfAda_identified :
    JwtProvider.plainProvider.algorithm = Digest.sha256.algorithm ∧
      Token.IsPlain JwtProvider.plainProvider.secret ∧ ∃ result,
        (authenticate 0 (JwtProvider.plainProvider.toTokenProvider (.whole 0))
          requestOfAda).outcome = .ok result ∧
        result.context.isAuthenticated = true ∧
        ∃! verdict : Verdict,
          verdict.Fits JwtProvider.plainProvider .sha256 (.whole 0) requestOfAda result := by
  have found : JwtProvider.resolveToken requestOfAda.headers = some tokenOfAda := by
    decide +kernel
  have valid : (JwtProvider.plainProvider.validateToken (.whole 0) tokenOfAda).outcome =
      .ok claimsOfAda := eq_ok_of_toOption (by decide +kernel)
  obtain ⟨principal, -, -, identified⟩ := identify_of_ok 0 valid
  have returned : (authenticate 0 (JwtProvider.plainProvider.toTokenProvider (.whole 0))
      requestOfAda).outcome =
        .ok { context := (SecurityContext.empty 0).authenticate principal } := by
    rw [authenticate_of_token 0 found, identified]
    rfl
  obtain ⟨verdict, known⟩ := authenticate_verdict 0 JwtProvider.plainProvider .sha256 (.whole 0)
    requestOfAda _ rfl JwtProvider.plainProvider_isPlain returned
  exact ⟨rfl, JwtProvider.plainProvider_isPlain, _, returned, known _ found rfl, verdict⟩

end Gate

end Tollgate
