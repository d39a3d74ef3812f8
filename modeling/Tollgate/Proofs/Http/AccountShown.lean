import Tollgate.Proofs.Run.Identity

namespace Tollgate

open Traced JwtProvider

/-- The name and all authorities have an encoding. -/
def Response.CanShow (username : Text) (authorities : List Text) : Prop :=
  username.hasSurrogate = false ∧ ∀ authority ∈ authorities, authority.hasSurrogate = false

instance (username : Text) (authorities : List Text) :
    Decidable (Response.CanShow username authorities) :=
  inferInstanceAs (Decidable (_ ∧ _))

def Exchange.Shows (exchange : Exchange) (username : Text) (authorities : List Text) : Prop :=
  exchange.raised = none ∧ exchange.response.Shows username authorities

def Exchange.IsUnwritable (exchange : Exchange) : Prop :=
  exchange.raised = some (.crash .unwritableAnswer) ∧ exchange.response = Handler.serverError

namespace Handler

variable {app : Application} {request : Request} {now : Clock} {username : Text}
  {authorities : List Text}

theorem jsonAnswer_account_unwritable (hidden : ¬ Response.CanShow username authorities) :
    jsonAnswer (.object (accountMembers username authorities)) =
      ⟨[], .error (.crash .unwritableAnswer)⟩ := by
  have unwritten : Utf8.encode (Json.compactUnicode
      (.object (accountMembers username authorities))) = none := by
    by_contra written
    have scalar := Utf8.encode_ne_none_iff.mp written
    rw [hasSurrogate_account] at scalar
    exact hidden (by simpa [Response.CanShow] using scalar)
  simp only [jsonAnswer, ofJson_account, unwritten]
  rfl

theorem serve_account_unwritable {provider : TokenProvider} {events : List Event}
    {context : SecurityContext} {principal : Principal}
    (passes : app.PassesOn provider request events context) (asks : request.AsksForAccount)
    (identified : context.principal = some principal) (named : principal.subject = .text username)
    (hidden : ¬ Response.CanShow username principal.authorities) :
    ((app.handler provider now).serve request).IsUnwritable := by
  have routed := (Router.handle_account app now context asks.1 asks.2).trans
    ((whoAmI_of_principal request identified named).trans (jsonAnswer_account_unwritable hidden))
  rw [passes.serve_of_unanswered routed rfl rfl]
  exact ⟨rfl, rfl⟩

end Handler

namespace Application

/-- The account of an accepted token is shown if every text in it has an encoding, and only then.
Otherwise the request ends in a crash. -/
theorem account_shown_iff (app : Application) (provider : JwtProvider) (now : Clock)
    (request : Request) (token : Text) (claims : Members) (arriving : request.context = none)
    (asks : request.AsksForAccount) (noLength : request.header? "content-length" = none)
    (found : resolveToken request.headers = some token)
    (valid : (provider.validateToken now token).outcome = .ok claims) :
    let exchange := (app.handler (provider.toTokenProvider now) now).serve request
    ∃ username authorities, claims.at? "sub" = some (.text username) ∧
      Token.Grants claims authorities ∧
      (exchange.Shows username authorities ↔ Response.CanShow username authorities) ∧
      (¬ Response.CanShow username authorities → exchange.IsUnwritable) := by
  intro exchange
  obtain ⟨username, principal, named, subject, grants, passes⟩ :=
    exists_passesOn_account app arriving asks noLength found valid
  have identified :
      ((SecurityContext.empty request.number).authenticate principal).principal = some principal :=
    rfl
  have crashes (hidden : ¬ Response.CanShow username principal.authorities) :
      exchange.IsUnwritable :=
    Handler.serve_account_unwritable passes asks identified subject hidden
  refine ⟨username, principal.authorities, named, grants, ⟨?_, ?_⟩, crashes⟩
  · intro shows
    by_contra hidden
    cases shows.1.symm.trans (crashes hidden).1
  · intro ⟨nameScalar, namesScalar⟩
    obtain ⟨response, served, shows⟩ := Handler.serve_account passes asks.1 asks.2 identified
      subject nameScalar namesScalar
    have answered : exchange = _ := served
    rw [answered]
    exact ⟨rfl, shows⟩

def accountRequest (token : Text) : Request where
  number := 0
  method := Text.lit "GET"
  path := Text.lit "/accounts/me"
  query := []
  headers := [(Text.lit "authorization", Text.lit "Bearer " ++ token)]
  chunks := []

theorem resolveToken_accountRequest {token : Text} (nonempty : token ≠ [])
    (trimmed : token.trim = token) :
    resolveToken (accountRequest token).headers = some token := by
  have noBlank : Text.IsBlank [] := fun _ member => absurd member List.not_mem_nil
  apply resolveToken_eq_some_iff.mpr
  refine ⟨⟨Text.lit "Bearer", [], [], ?_, by decide, noBlank, noBlank⟩, nonempty, trimmed⟩
  rw [List.append_nil]
  rfl

theorem tokenOfEpoch_shown :
    (accountRequest tokenOfEpoch).context = none ∧ (accountRequest tokenOfEpoch).AsksForAccount ∧
      (accountRequest tokenOfEpoch).header? "content-length" = none ∧
      resolveToken (accountRequest tokenOfEpoch).headers = some tokenOfEpoch ∧
      (plainProvider.validateToken (.whole 0) tokenOfEpoch).outcome = .ok (claimsUntil 0) ∧
      ((plainApplication.handler (plainProvider.toTokenProvider (.whole 0)) (.whole 0)).serve
        (accountRequest tokenOfEpoch)).Shows (Text.lit "a") [] := by
  have found := resolveToken_accountRequest
    (show tokenOfEpoch ≠ [] by decide) (show tokenOfEpoch.trim = tokenOfEpoch by decide)
  obtain ⟨username, authorities, named, grants, shown, -⟩ :=
    account_shown_iff plainApplication plainProvider (.whole 0) (accountRequest tokenOfEpoch)
      tokenOfEpoch (claimsUntil 0) rfl ⟨rfl, rfl⟩ rfl found tokenOfEpoch_valid
  cases named
  have absent : Token.Grants (claimsUntil 0) [] := .absent rfl
  cases grants.unique absent
  exact ⟨rfl, ⟨rfl, rfl⟩, rfl, found, tokenOfEpoch_valid, shown.mpr (by decide)⟩

def tokenOfHalf : Text :=
  Text.lit "eyJhbGciOiJIUzI1NiIsInR5cCI6IkpXVCJ9" ++ Text.lit "." ++
    Text.lit "eyJzdWIiOiJcdWQ4MDAiLCJleHAiOjB9" ++ Text.lit "." ++
    Text.lit "EGviMm022IkAW_VgRHX9o7KwU8LGl69i5r6Ovovx7nw"

def claimsOfHalf : Members :=
  [(Text.lit "sub", .text [⟨0xD800, by decide⟩]), (Text.lit "exp", .integer 0)]

/-- The provider accepts the token, and its holder gets a crash instead of the account. -/
theorem tokenOfHalf_unwritable :
    (accountRequest tokenOfHalf).AsksForAccount ∧
      (accountRequest tokenOfHalf).header? "content-length" = none ∧
      resolveToken (accountRequest tokenOfHalf).headers = some tokenOfHalf ∧
      (plainProvider.validateToken (.whole 0) tokenOfHalf).outcome = .ok claimsOfHalf ∧
      ((plainApplication.handler (plainProvider.toTokenProvider (.whole 0)) (.whole 0)).serve
        (accountRequest tokenOfHalf)).IsUnwritable := by
  have asks : (accountRequest tokenOfHalf).AsksForAccount := ⟨rfl, rfl⟩
  have found := resolveToken_accountRequest
    (show tokenOfHalf ≠ [] by decide) (show tokenOfHalf.trim = tokenOfHalf by decide)
  have valid : (plainProvider.validateToken (.whole 0) tokenOfHalf).outcome = .ok claimsOfHalf :=
    eq_ok_of_toOption (by decide +kernel)
  obtain ⟨username, principal, named, subject, grants, passes⟩ :=
    exists_passesOn_account plainApplication rfl asks rfl found valid
  cases named
  refine ⟨asks, rfl, found, valid, ?_⟩
  apply Handler.serve_account_unwritable passes asks rfl subject
  intro shown
  exact absurd shown.1 (by decide)

end Application

end Tollgate
