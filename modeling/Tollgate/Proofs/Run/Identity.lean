import Tollgate.Proofs.Http.Account
import Tollgate.Proofs.Run.State
import Tollgate.Proofs.Token.Bearer

namespace Tollgate

open Token JwtProvider

theorem Token.Grants.unique {claims : Members} {names others : List Text}
    (first : Grants claims names) (second : Grants claims others) : names = others :=
  Option.some.inj <|
    (authorities?_eq_some_iff.mpr first).symm.trans (authorities?_eq_some_iff.mpr second)

def Request.AsksForAccount (request : Request) : Prop :=
  request.method = Text.lit "GET" ∧ request.path = Text.lit "/accounts/me"

namespace Application

/-- A step issues the token to a holder whose name and authorities have an encoding. -/
structure IssuesAt (app : Application) (start : RunState) (steps : List Step) (k : Nat)
    (token username : Text) (authorities : List Text) : Prop where
  issued : ∃ name tokenId events, tokenId.hasSurrogate = false ∧
    steps[k]? = some (.issue name (.text username) (.list (authorities.map .text)) tokenId) ∧
    (app.run start steps)[k]? = some ⟨events, .issued token⟩
  nameScalar : username.hasSurrogate = false
  namesScalar : ∀ authority ∈ authorities, authority.hasSurrogate = false

/-- No step revokes the token id of the claims, and the host's check, if one is set, lets them
pass. -/
structure AreUnrevoked (steps : List Step) (claims : Members) : Prop where
  unlisted : .revoke (tokenId? claims) ∉ steps
  passed : hostCheck steps claims = .ok false

/-- The claims of the token do not end before the second, and are not revoked. -/
def IsCurrent (steps : List Step) (second : Int) (token : Text) : Prop :=
  ∃ claims expires, Carries token claims ∧ claims.at? "exp" = some (.integer expires) ∧
    second ≤ expires ∧ AreUnrevoked steps claims

/-- Whoever presents a token that was issued before, and is good in the second of the date that the
clock shows, is shown the account that it was issued to. -/
def ShowsHolders (app : Application) (start : RunState) (steps : List Step) : Prop :=
  ∀ i j token username authorities request date,
    app.IssuesAt start steps i token username authorities → i < j →
    app.SendsAt start steps j request → request.AsksForAccount →
    request.header? "content-length" = none → request.Presents token →
    (app.stateAfter start (steps.take j)).now.date = .ok date →
    IsCurrent (steps.take j) ⌊date.seconds⌋ token →
    ∃ events response, (app.run start steps)[j]? = some ⟨events, .answered response none⟩ ∧
      response.Shows username authorities

/-- An account that is shown is the one that the claims of the presented token name, and the
provider accepts this token in the second of the date that the clock shows. -/
def ShowsOnlyHolders (app : Application) (digest : Digest) (start : RunState)
    (steps : List Step) : Prop :=
  ∀ k request events response raised, app.SendsAt start steps k request →
    request.AsksForAccount →
    (app.run start steps)[k]? = some ⟨events, .answered response raised⟩ →
    response.status = 200 →
    ∃ token claims username authorities date,
      request.Presents token ∧ token ≠ [] ∧ token.trim = token ∧
      (app.stateAfter start (steps.take k)).now.date = .ok date ∧
      (app.providerAt (app.stateAfter start (steps.take k))).Accepts digest ⌊date.seconds⌋ token
        claims ∧
      claims.at? "sub" = some (.text username) ∧ Grants claims authorities ∧
      response.Shows username authorities

variable {app : Application} {digest : Digest} {start : RunState} {steps : List Step}

theorem reachesGate_of_asksForAccount {request : Request} (asks : request.AsksForAccount)
    (noLength : request.header? "content-length" = none) : app.ReachesGate request where
  noPreflight origin method asked := by
    have other : Text.lit "GET" ≠ Text.lit "OPTIONS" := by decide
    exact other (asks.1.symm.trans asked.1)
  inLimit length declares := by
    obtain ⟨value, found, -⟩ := declares
    cases noLength.symm.trans found

theorem exists_passesOn_account (app : Application) {provider : JwtProvider} {now : Clock}
    {request : Request} {token : Text} {claims : Members} (arriving : request.context = none)
    (asks : request.AsksForAccount) (noLength : request.header? "content-length" = none)
    (found : JwtProvider.resolveToken request.headers = some token)
    (valid : (provider.validateToken now token).outcome = .ok claims) :
    ∃ username principal, claims.at? "sub" = some (.text username) ∧
      principal.subject = .text username ∧ Token.Grants claims principal.authorities ∧
      app.PassesOn (provider.toTokenProvider now) request
        (.validated 0 :: (provider.validateToken now token).events)
        ((SecurityContext.empty request.number).authenticate principal) := by
  have reaches : app.ReachesGate request := reachesGate_of_asksForAccount asks noLength
  have declared : BodyLimit.declared request.headers = .ok none := by
    unfold Request.header? at noLength
    simp only [BodyLimit.declared, noLength]
  obtain ⟨principal, subject, grants, passes⟩ :=
    passesOn_of_valid arriving reaches declared found valid
  obtain ⟨username, named⟩ := JwtProvider.exists_subject valid
  exact ⟨username, principal, named, Option.some.inj (subject.symm.trans named), grants, passes⟩

theorem getElem?_run_request {k : Nat} {request : Request}
    (sent : app.SendsAt start steps k request) :
    let state := app.stateAfter start (steps.take k)
    let exchange := (app.handler ((app.providerAt state).toTokenProvider state.now)
      state.now).serve request
    (app.run start steps)[k]? =
      some ⟨exchange.events, .answered exchange.response exchange.raised⟩ := by
  obtain ⟨draft, here, made⟩ := sent
  rw [getElem?_run, here]
  exact congrArg some (step_request made)

theorem SendsAt.context_eq_none {k : Nat} {request : Request}
    (sent : app.SendsAt start steps k request) : request.context = none := by
  obtain ⟨draft, -, made⟩ := sent
  exact request_context made

theorem showsOnlyHolders (algorithm : app.settings.jwtAlgorithm = digest.algorithm)
    (plain : IsPlain app.settings.jwtSecretKey) (start : RunState) (steps : List Step) :
    app.ShowsOnlyHolders digest start steps := by
  intro k request events response raised sent asks answered good
  have served := getElem?_run_request sent
  rw [answered] at served
  cases served
  obtain ⟨token, claims, username, authorities, found, valid, subject, grants, shows⟩ :=
    Handler.of_serve_account sent.context_eq_none asks.1 asks.2 good
  obtain ⟨presents, nonempty, trimmed⟩ := resolveToken_eq_some_iff.mp found
  obtain ⟨second, shown, accepts⟩ :=
    (validateToken_ok_iff_accepts digest algorithm plain).mp valid
  obtain ⟨date, dated, rfl⟩ := Clock.second_eq_ok_iff.mp shown
  rw [date.second_eq_floor] at accepts
  exact ⟨token, claims, username, authorities, date, presents, nonempty, trimmed, dated, accepts,
    subject, grants, shows⟩

theorem IssuesAt.exists_grant (algorithm : app.settings.jwtAlgorithm = digest.algorithm) {k : Nat}
    {token username : Text} {authorities : List Text}
    (issues : app.IssuesAt start steps k token username authorities) (state : RunState) :
    (token ≠ [] ∧ token.trim = token) ∧ ∃ grant : Grant, grant.subject = .text username ∧
      grant.authorities = authorities.map .text ∧
      (app.providerAt state).IsAuthentic digest token grant.claims := by
  obtain ⟨name, tokenId, events, idScalar, here, recorded⟩ := issues.issued
  rw [getElem?_run, here] at recorded
  have created := createToken_of_issued (congrArg StepRecord.result (Option.some.inj recorded))
  obtain ⟨nonempty, solid⟩ := createToken_solid created
  obtain ⟨grant, subject, granted, -, -, -, authentic⟩ :=
    JwtProvider.exists_grant algorithm created issues.nameScalar issues.namesScalar idScalar
  exact ⟨⟨nonempty, Text.trim_eq_self solid⟩, grant, subject, granted, authentic⟩

theorem revocation?_of_initial (app : Application) (now : Clock) (steps : List Step) :
    (app.providerAt (app.stateAfter (initial now true) steps)).revoked =
      some ((hostCheck steps).orListed (steps.filterMap Step.revoked?)) := by
  have known := stateAfter_revoked app (initial now true) steps
  simp only [providerAt, RunState.revocation?, known, check_of_initial]
  rfl

theorem isUnrevoked_initial_iff {now : Clock} {claims : Members} :
    (app.providerAt (app.stateAfter (initial now true) steps)).IsUnrevoked claims ↔
      AreUnrevoked steps claims := by
  rw [isUnrevoked_orListed (revocation?_of_initial app now steps), mem_revocations]
  exact ⟨fun both => ⟨both.1, both.2⟩, fun both => ⟨both.unlisted, both.passed⟩⟩

theorem AreUnrevoked.isUnrevoked {now : Clock} {revocation : Bool} {claims : Members}
    (unrevoked : AreUnrevoked steps claims) :
    (app.providerAt (app.stateAfter (initial now revocation) steps)).IsUnrevoked claims := by
  cases revocation with
  | true => exact isUnrevoked_initial_iff.mpr unrevoked
  | false =>
    have unknown := stateAfter_revoked app (initial now false) steps
    intro check given
    simp only [providerAt, RunState.revocation?, unknown] at given
    cases given

theorem showsHolders (algorithm : app.settings.jwtAlgorithm = digest.algorithm)
    (plain : IsPlain app.settings.jwtSecretKey) (now : Clock) (revocation : Bool)
    (steps : List Step) : app.ShowsHolders (initial now revocation) steps := by
  intro i j token username authorities request date issues _ sent asks noLength presents shown
    current
  let state := app.stateAfter (initial now revocation) (steps.take j)
  obtain ⟨⟨nonempty, trimmed⟩, grant, subject, granted, authentic⟩ :=
    issues.exists_grant algorithm state
  obtain ⟨claims, expires, carried, given, inTime, unrevoked⟩ := current
  cases carried.unique authentic.carries
  have same : grant.expires = expires := by
    cases given
    rfl
  subst same
  have named : grant.claims.at? "sub" = some (.text username) := congrArg some subject
  have grants : Grants grant.claims authorities :=
    .list (congrArg (fun items => some (Json.list items)) granted)
  have accepts : (app.providerAt state).Accepts digest ⌊date.seconds⌋ token grant.claims :=
    ⟨authentic, Grant.inOrder subject inTime, ⟨authorities, grants⟩, unrevoked.isUnrevoked⟩
  have second : state.now.second = .ok ⌊date.seconds⌋ :=
    Clock.second_eq_ok_iff.mpr ⟨date, shown, date.second_eq_floor⟩
  have valid := (validateToken_ok_iff_accepts digest algorithm plain).mpr ⟨_, second, accepts⟩
  have found := resolveToken_eq_some_iff.mpr ⟨presents, nonempty, trimmed⟩
  obtain ⟨name, principal, subjectNamed, principalNamed, principalGrants, passes⟩ :=
    exists_passesOn_account app sent.context_eq_none asks noLength found valid
  cases named.symm.trans subjectNamed
  cases grants.unique principalGrants
  obtain ⟨response, served, shows⟩ := Handler.serve_account passes asks.1 asks.2 rfl principalNamed
    issues.nameScalar issues.namesScalar
  have recorded := getElem?_run_request sent
  exact ⟨_, response, recorded.trans (by rw [served]), shows⟩

def validFor (minutes : Int) : Application :=
  { plainApplication with
    settings := { plainApplication.settings with jwtValidityMinutes := minutes } }

def ada : Text := Text.lit "ada"

def accountDraft : Draft where
  method := Text.lit "GET"
  path := Text.lit "/accounts/me"
  query := []
  headers := []
  body := []
  chunkSize := none
  bearer := some ada
  signing := none

def visit (between : Step) : List Step :=
  [.issue ada (.text ada) (.list ([Text.lit "USER"].map .text)) (Text.lit "0"), between,
    .request accountDraft]

structure Visits (minutes : Int) (revocation : Bool) (between : Step) (token : Text)
    (grant : Grant) (request : Request) : Prop where
  issues : (validFor minutes).IssuesAt (initial (.whole 0) revocation) (visit between) 0 token ada
    [Text.lit "USER"]
  carried : Carries token grant.claims
  expires : grant.expires = 60 * minutes
  tokenId : grant.tokenId = Text.lit "0"
  solid : token ≠ [] ∧ token.trim = token
  sent : (validFor minutes).SendsAt (initial (.whole 0) revocation) (visit between) 2 request
  asks : request.AsksForAccount
  noLength : request.header? "content-length" = none
  presents : request.Presents token

theorem validFor_isPlain (minutes : Int) : IsPlain (validFor minutes).settings.jwtSecretKey :=
  plainProvider_isPlain

theorem algorithm_validFor (minutes : Int) :
    (validFor minutes).settings.jwtAlgorithm = Digest.sha256.algorithm :=
  rfl

theorem exists_visit {minutes : Int} (date : Clock.isDate (60 * minutes) = true)
    (revocation : Bool) {between : Step}
    (keeps : ∀ state, ((validFor minutes).step state between).1.issued = state.issued) :
    ∃ token grant request, Visits minutes revocation between token grant request := by
  let start := initial (.whole 0) revocation
  have encoded : Utf8.encode (Text.lit "secret") = some "secret".toUTF8.toList := by decide +kernel
  have zero : (Clock.whole 0).second = .ok 0 := rfl
  obtain ⟨token, created⟩ : ∃ token, ((validFor minutes).providerAt start).createToken (.whole 0)
      (Text.lit "0") (.text ada) (.list ([Text.lit "USER"].map .text)) = .ok token :=
    exists_createToken .sha256 rfl (validFor_isPlain minutes) encoded zero
      (by rwa [Int.zero_add]) _ _ _
  obtain ⟨grant, -, -, shown, expires, tokenId, authentic⟩ :=
    JwtProvider.exists_grant (algorithm_validFor minutes) created
      (by decide) (by decide) (by decide)
  have issuedAt : 0 = grant.issuedAt := Except.ok.inj (zero.symm.trans shown)
  rw [← issuedAt, Int.zero_add] at expires
  have first : (validFor minutes).step start (.issue ada (.text ada)
      (.list ([Text.lit "USER"].map .text)) (Text.lit "0")) =
      ({ start with issued := [(ada, token)] }, ⟨[], .issued token⟩) := by
    have here : start.now = .whole 0 := rfl
    simp only [step, here, created]
    rfl
  have issues : (validFor minutes).IssuesAt start (visit between) 0 token ada
      [Text.lit "USER"] := by
    refine ⟨⟨ada, Text.lit "0", [], by decide, rfl, ?_⟩, by decide, by decide⟩
    rw [getElem?_run]
    exact congrArg (fun result => some result.2) first
  obtain ⟨solid, -⟩ := issues.exists_grant (algorithm_validFor minutes) start
  let state := (validFor minutes).stateAfter start ((visit between).take 2)
  have known : state.issued = [(ada, token)] := by
    change ((validFor minutes).step ((validFor minutes).step start _).1 between).1.issued = _
    rw [keeps, first]
  refine ⟨token, grant, ⟨state.requests, Text.lit "GET", Text.lit "/accounts/me", [],
    [(Text.lit "authorization", Text.lit "Bearer " ++ token)], [[]], none⟩, issues,
    authentic.carries, expires, tokenId, solid, ⟨accountDraft, rfl, ?_⟩, ⟨rfl, rfl⟩, rfl,
    Text.lit "Bearer", [], [], ?_, by decide, fun _ blank => absurd blank List.not_mem_nil,
    fun _ blank => absurd blank List.not_mem_nil⟩
  · change accountDraft.request? _ state = _
    unfold Draft.request?
    rw [known]
    rfl
  · rw [List.append_nil]
    rfl

theorem Visits.isCurrent {minutes : Int} {revocation : Bool} {between : Step} {token : Text}
    {grant : Grant} {request : Request}
    (visits : Visits minutes revocation between token grant request)
    (keeps : between ≠ .revoke (some (Text.lit "0"))) (unset : between.check? = none)
    {second : Int} (inTime : second ≤ 60 * minutes) :
    IsCurrent ((visit between).take 2) second token := by
  have id : tokenId? grant.claims = some (Text.lit "0") := congrArg some visits.tokenId
  rw [← visits.expires] at inTime
  refine ⟨grant.claims, grant.expires, visits.carried, rfl, inTime, ?_, ?_⟩
  · rw [id]
    simpa [visit] using keeps.symm
  · have none : ((visit between).take 2).filterMap Step.check? = [] := by
      have issuing (name : Text) (subject authorities : Json) (tokenId : Text) :
          (Step.issue name subject authorities tokenId).check? = none := rfl
      simp only [visit, List.take_succ_cons, List.take_zero, List.filterMap_cons, unset, issuing,
        List.filterMap_nil]
    simp only [hostCheck, none]
    rfl

/-- Over any run of an application with a plain secret, accounts are shown to the holders of the
tokens that name them: to every holder, while the token is good in the second that the clock shows,
and to nobody else. -/
theorem accounts_show_holders (app : Application) (digest : Digest)
    (algorithm : app.settings.jwtAlgorithm = digest.algorithm)
    (plain : IsPlain app.settings.jwtSecretKey) (now : Clock) (revocation : Bool)
    (steps : List Step) :
    app.ShowsHolders (initial now revocation) steps ∧
      app.ShowsOnlyHolders digest (initial now revocation) steps :=
  ⟨showsHolders algorithm plain now revocation steps,
    showsOnlyHolders algorithm plain (initial now revocation) steps⟩

theorem ada_shown_at_expiry : ∃ events response,
    ((validFor 60).run (initial (.whole 0) true)
      (visit (.setClock (.ofNanoseconds 3600999999999))))[2]? =
      some ⟨events, .answered response none⟩ ∧ response.Shows ada [Text.lit "USER"] := by
  obtain ⟨token, grant, request, visits⟩ := exists_visit
    (show Clock.isDate (60 * 60) = true by decide) true
    (show ∀ state, ((validFor 60).step state
      (.setClock (.ofNanoseconds 3600999999999))).1.issued = state.issued from fun _ => rfl)
  have clock : ((validFor 60).stateAfter (initial (.whole 0) true)
      ((visit (.setClock (.ofNanoseconds 3600999999999))).take 2)).now =
        .ofNanoseconds 3600999999999 := rfl
  have dated : (Clock.ofNanoseconds 3600999999999).date =
      .ok ⟨3600999999, by decide⟩ := rfl
  have second : ⌊Date.seconds ⟨3600999999, by decide⟩⌋ = 3600 :=
    (Date.second_eq_floor _).symm
  exact (accounts_show_holders (validFor 60) .sha256 (algorithm_validFor 60) (validFor_isPlain 60)
    (.whole 0) true (visit (.setClock (.ofNanoseconds 3600999999999)))).1 0 2 token ada
    [Text.lit "USER"] request ⟨3600999999, by decide⟩ visits.issues (by decide) visits.sent
    visits.asks visits.noLength visits.presents (by rw [clock, dated])
    (visits.isCurrent nofun rfl (by rw [second]; decide))

end Application

end Tollgate
