import Tollgate.Proofs.Run.Identity

namespace Tollgate

open Token JwtProvider Traced

theorem JwtProvider.validateToken_congr {provider other : JwtProvider} {now : Clock} {token : Text}
    (decodes : other.decode now token = provider.decode now token)
    (checks : ∀ claims, Carries token claims →
      other.checkRevocation claims = provider.checkRevocation claims) :
    other.validateToken now token = provider.validateToken now token := by
  unfold validateToken
  rw [decodes]
  cases decoded : provider.decode now token with
  | error failure => rfl
  | ok claims =>
    have same := checks claims (carries_of_decode decoded)
    simp only [mapError_ok, ofExcept_eq, ok_bind, same]

namespace Gate

theorem screen_congr {provider other : TokenProvider} {request : Request}
    (resolves : other.resolveToken request.headers = provider.resolveToken request.headers)
    (validates : ∀ token, (provider.resolveToken request.headers).outcome = .ok (some token) →
      other.validateToken token = provider.validateToken token)
    (authenticates : ∀ token, other.getAuthentication token = provider.getAuthentication token) :
    screen other request = screen provider request := by
  unfold screen
  rw [resolves]
  cases resolved : (provider.resolveToken request.headers).outcome with
  | error fault => rw [bind_of_error resolved, bind_of_error resolved]
  | ok found =>
    rw [bind_of_ok resolved, bind_of_ok resolved]
    cases found with
    | none => rfl
    | some token =>
      have same : identify other request token = identify provider request token := by
        unfold identify
        rw [validates token resolved, authenticates token]
      simp only [same]

theorem authenticate_congr {depth : Nat} {provider other : TokenProvider} {request : Request}
    (resolves : other.resolveToken request.headers = provider.resolveToken request.headers)
    (validates : ∀ token, (provider.resolveToken request.headers).outcome = .ok (some token) →
      other.validateToken token = provider.validateToken token)
    (authenticates : ∀ token, other.getAuthentication token = provider.getAuthentication token) :
    authenticate depth other request = authenticate depth provider request := by
  refine screen_congr resolves (fun token resolved => ?_) authenticates
  rw [other.recorded_validateToken, provider.recorded_validateToken, validates token resolved]

theorem layer_congr {depth : Nat} {provider other : TokenProvider} {request : Request}
    (same : authenticate depth other request = authenticate depth provider request)
    (next : Handler) : layer depth other next request = layer depth provider next request := by
  unfold layer
  rw [same]

end Gate

theorem RevocationCheck.orListed_insert (check : RevocationCheck) {claims : Members}
    {tokenId : Option Text} (differs : JwtProvider.tokenId? claims ≠ tokenId)
    (before after : List (Option Text)) :
    check.orListed (before ++ tokenId :: after) claims =
      check.orListed (before ++ after) claims := by
  simp [orListed, differs]

theorem JwtProvider.checkRevocation_congr {provider other : JwtProvider} {claims : Members}
    (same : other.revoked.map (· claims) = provider.revoked.map (· claims)) :
    other.checkRevocation claims = provider.checkRevocation claims := by
  unfold checkRevocation RevocationCheck.recorded
  cases given : provider.revoked with
  | none =>
    have none : other.revoked = none := by simpa [given] using same
    rw [none]
  | some check =>
    obtain ⟨another, alsoGiven, answer⟩ : ∃ another, other.revoked = some another ∧
        another claims = check claims := by simpa [given] using same
    rw [alsoGiven]
    simp only [answer]

namespace Application

variable {app : Application} {start state : RunState} {steps : List Step}

theorem around_congr {provider other : TokenProvider} {request : Request}
    (same : Gate.authenticate 0 other request = Gate.authenticate 0 provider request)
    (next : Handler) : app.around other next request = app.around provider next request := by
  have gate := Gate.layer_congr same next
  unfold around Cors.layer BodyLimit.layer
  simp only [gate]

theorem createToken_forget (app : Application) (state : RunState)
    (revoked : Option (List (Option Text))) :
    (app.providerAt { state with revoked }).createToken = (app.providerAt state).createToken :=
  rfl

theorem request?_forget (draft : Draft) (settings : Settings) (state : RunState)
    (revoked : Option (List (Option Text))) :
    draft.request? settings { state with revoked } = draft.request? settings state :=
  rfl

theorem step_forget (app : Application) (state : RunState) (revoked : Option (List (Option Text)))
    (s : Step) :
    (app.step { state with revoked } s).1 =
      { (app.step state s).1 with revoked := (app.step { state with revoked } s).1.revoked } := by
  cases s with
  | setClock now => rfl
  | setCheck check => rfl
  | revoke tokenId => rfl
  | issue name subject authorities tokenId =>
    simp only [step, createToken_forget]
    split <;> rfl
  | request draft =>
    simp only [step, request?_forget]
    split <;> rfl

theorem stateAfter_forget (app : Application) (state : RunState)
    (revoked : Option (List (Option Text))) (steps : List Step) :
    app.stateAfter { state with revoked } steps =
      { app.stateAfter state steps with
        revoked := (app.stateAfter { state with revoked } steps).revoked } := by
  induction steps generalizing state revoked with
  | nil => rfl
  | cons s steps ih =>
    have first := step_forget app state revoked s
    change app.stateAfter (app.step { state with revoked } s).1 steps =
      { app.stateAfter (app.step state s).1 steps with
        revoked := (app.stateAfter (app.step { state with revoked } s).1 steps).revoked }
    rw [first]
    exact ih (app.step state s).1 _

theorem step_record_congr {revoked : Option (List (Option Text))} {s : Step}
    (checks : ∀ draft request token claims, s = .request draft →
      draft.request? app.settings state = some request →
      resolveToken request.headers = some token → Carries token claims →
      (app.providerAt { state with revoked }).checkRevocation claims =
        (app.providerAt state).checkRevocation claims) :
    (app.step { state with revoked } s).2 = (app.step state s).2 := by
  cases s with
  | setClock now => rfl
  | setCheck check => rfl
  | revoke tokenId => rfl
  | issue name subject authorities tokenId =>
    simp only [step, createToken_forget]
    split <;> rfl
  | request draft =>
    simp only [step, request?_forget]
    cases sent : draft.request? app.settings state with
    | none => rfl
    | some request =>
      have authenticated : Gate.authenticate 0
          ((app.providerAt { state with revoked }).toTokenProvider state.now) request =
          Gate.authenticate 0 ((app.providerAt state).toTokenProvider state.now) request := by
        refine Gate.authenticate_congr rfl (fun token resolved => ?_) fun _ => rfl
        have found : resolveToken request.headers = some token := Except.ok.inj resolved
        have valid : (app.providerAt { state with revoked }).validateToken state.now token =
            (app.providerAt state).validateToken state.now token :=
          validateToken_congr rfl fun claims carried =>
            checks draft request token claims rfl sent found carried
        rw [toTokenProvider_validateToken, toTokenProvider_validateToken, valid]
      have handled : app.handler ((app.providerAt { state with revoked }).toTokenProvider
          state.now) state.now request =
          app.handler ((app.providerAt state).toTokenProvider state.now) state.now request :=
        around_congr authenticated _
      simp only [Handler.serve, handled]

/-- After a token id is revoked, a request that is passed on with a principal has it from a token of
another id. -/
def NeverServesRevoked (app : Application) (start : RunState) (steps : List Step) : Prop :=
  ∀ i k tokenId request events context principal,
    steps[i]? = some (.revoke tokenId) → i < k → app.SendsAt start steps k request →
    let state := app.stateAfter start (steps.take k)
    app.PassesOn ((app.providerAt state).toTokenProvider state.now) request events context →
    context.principal = some principal →
    ∃ token claims, resolveToken request.headers = some token ∧ Carries token claims ∧
      claims.at? "sub" = some principal.subject ∧ Grants claims principal.authorities ∧
      tokenId? claims ≠ tokenId

/-- After a token id is revoked, no request whose token carries it comes to a route: its record is
the answer of the layers. -/
def RefusesRevoked (app : Application) (start : RunState) (steps : List Step) : Prop :=
  ∀ i k tokenId request token claims,
    steps[i]? = some (.revoke tokenId) → i < k → app.SendsAt start steps k request →
    resolveToken request.headers = some token → Carries token claims →
    tokenId? claims = tokenId →
    let state := app.stateAfter start (steps.take k)
    ∃ answer, app.AnswersAlone ((app.providerAt state).toTokenProvider state.now) request answer ∧
      Refuses request answer ∧
      let exchange := Handler.serve (fun _ => answer) request
      (app.run start steps)[k]? =
        some ⟨exchange.events, .answered exchange.response exchange.raised⟩

/-- Revoking a token id between two steps changes no later record, but for those of requests whose
token carries it. -/
def RevokesOnly (app : Application) (start : RunState) (before after : List Step)
    (tokenId : Option Text) : Prop :=
  ∀ k, (∀ request token claims, app.SendsAt start (before ++ after) (before.length + k) request →
      resolveToken request.headers = some token → Carries token claims →
      tokenId? claims ≠ tokenId) →
    (app.run start (before ++ .revoke tokenId :: after))[before.length + 1 + k]? =
      (app.run start (before ++ after))[before.length + k]?

theorem mem_take_of_getElem? {α : Type} {s : List α} {a : α} {i k : Nat} (here : s[i]? = some a)
    (earlier : i < k) : a ∈ s.take k := by
  have kept : (s.take k)[i]? = some a := by rw [List.getElem?_take_of_lt earlier, here]
  exact List.mem_of_getElem? kept

theorem notRevoked_of_valid {now clock : Clock} {tokenId : Option Text} {token : Text}
    {claims : Members} (revoked : .revoke tokenId ∈ steps)
    (valid : ((app.providerAt (app.stateAfter (initial now true) steps)).validateToken clock
      token).outcome = .ok claims) : tokenId? claims ≠ tokenId := by
  obtain ⟨-, unrevoked, -⟩ := validateToken_ok.mp valid
  rintro rfl
  exact (isUnrevoked_initial_iff.mp (checkRevocation_ok_iff.mp unrevoked)).unlisted revoked

theorem neverServesRevoked (app : Application) (now : Clock) (steps : List Step) :
    app.NeverServesRevoked (initial now true) steps := by
  intro i k tokenId request events context principal here earlier sent state passes authenticated
  have revoked := mem_take_of_getElem? here earlier
  have admission : app.Admission (app.providerAt state) state.now request :=
    app.admission sent.context_eq_none
  cases admission with
  | refused answer alone refusal => exact absurd passes alone.not_passesOn
  | anonymous noToken alsoPasses =>
    cases (passes.unique alsoPasses).2
    cases authenticated
  | identified token claims other found valid subject grants alsoPasses =>
    cases (passes.unique alsoPasses).2
    cases authenticated
    have carried := carries_of_decode (validateToken_ok.mp valid).1
    exact ⟨token, claims, found, carried, subject, grants, notRevoked_of_valid revoked valid⟩

theorem refusesRevoked (app : Application) (now : Clock) (steps : List Step) :
    app.RefusesRevoked (initial now true) steps := by
  intro i k tokenId request token claims here earlier sent found carried same state
  have revoked := mem_take_of_getElem? here earlier
  have admission : app.Admission (app.providerAt state) state.now request :=
    app.admission sent.context_eq_none
  cases admission with
  | refused answer alone refusal =>
    refine ⟨answer, alone, refusal, ?_⟩
    have through : app.handler _ state.now request = answer := alone _
    rw [getElem?_run_request sent]
    simp only [Handler.serve, state, through]
  | anonymous noToken => cases noToken.symm.trans found
  | identified other claims principal alsoFound valid =>
    cases alsoFound.symm.trans found
    cases (carries_of_decode (validateToken_ok.mp valid).1).unique carried
    exact absurd same (notRevoked_of_valid revoked valid)

theorem revokesOnly (app : Application) (start : RunState) (before after : List Step)
    (tokenId : Option Text) : app.RevokesOnly start before after tokenId := by
  intro k differs
  let state := app.stateAfter start (before ++ after.take k)
  have without : (before ++ after).take (before.length + k) = before ++ after.take k := by
    simp [List.take_append]
  have inserted : (before ++ .revoke tokenId :: after).take (before.length + 1 + k) =
      before ++ .revoke tokenId :: after.take k := by
    simp [List.take_append, Nat.add_assoc, Nat.add_comm 1 k]
  have stepWithout : (before ++ after)[before.length + k]? = after[k]? := by
    rw [List.getElem?_append_right (Nat.le_add_right _ _), Nat.add_sub_cancel_left]
  have stepInserted : (before ++ .revoke tokenId :: after)[before.length + 1 + k]? = after[k]? := by
    rw [Nat.add_assoc, List.getElem?_append_right (Nat.le_add_right _ _), Nat.add_sub_cancel_left,
      Nat.add_comm, List.getElem?_cons_succ]
  have revoked := stateAfter_revoked app start (before ++ .revoke tokenId :: after.take k)
  have reached : app.stateAfter start (before ++ .revoke tokenId :: after.take k) =
      { state with revoked := start.revoked.map (· ++
        (before ++ .revoke tokenId :: after.take k).filterMap Step.revoked?) } := by
    rw [← revoked]
    simp only [state, stateAfter_append]
    exact stateAfter_forget app (app.stateAfter start before) _ (after.take k)
  rw [getElem?_run, getElem?_run, stepWithout, stepInserted, without, inserted, reached]
  cases here : after[k]? with
  | none => rfl
  | some s =>
    refine congrArg some (step_record_congr ?_)
    rintro draft request token claims rfl sent found carried
    have other := differs request token claims
      ⟨draft, stepWithout.trans here, by rw [without]; exact sent⟩ found carried
    have known : state.revoked = _ := stateAfter_revoked app start (before ++ after.take k)
    refine checkRevocation_congr ?_
    simp only [providerAt, RunState.revocation?, known, Option.map_map]
    refine congrArg (start.revoked.map ·) (funext fun revoked => ?_)
    have insert := state.check.orListed_insert other (revoked ++ before.filterMap Step.revoked?)
      ((after.take k).filterMap Step.revoked?)
    simpa [List.filterMap_append, Step.revoked?] using insert

/-- Once a token id is revoked in a run with a revocation list, it stays so for every later request,
whatever the spelling of its token and whatever the clock shows. Nothing else changes for the
requests whose tokens carry another id. -/
theorem revocation_is_permanent (app : Application) (now : Clock) (steps : List Step) :
    app.NeverServesRevoked (initial now true) steps ∧
      app.RefusesRevoked (initial now true) steps ∧
      ∀ before after tokenId, app.RevokesOnly (initial now true) before after tokenId :=
  ⟨neverServesRevoked app now steps, refusesRevoked app now steps, revokesOnly app _⟩

theorem ada_refused_when_revoked : ∃ request answer,
    (validFor 60).SendsAt (initial (.whole 0) true) (visit (.revoke (some (Text.lit "0")))) 2
      request ∧ Refuses request answer ∧
    let exchange := Handler.serve (fun _ => answer) request
    ((validFor 60).run (initial (.whole 0) true) (visit (.revoke (some (Text.lit "0")))))[2]? =
      some ⟨exchange.events, .answered exchange.response exchange.raised⟩ := by
  obtain ⟨token, grant, request, visits⟩ := exists_visit
    (show Clock.isDate (60 * 60) = true by decide) true
    (show ∀ state, ((validFor 60).step state (.revoke (some (Text.lit "0")))).1.issued =
      state.issued from fun _ => rfl)
  have found := resolveToken_eq_some_iff.mpr ⟨visits.presents, visits.solid⟩
  obtain ⟨answer, -, refusal, recorded⟩ := (revocation_is_permanent (validFor 60) (.whole 0)
    (visit (.revoke (some (Text.lit "0"))))).2.1 1 2 (some (Text.lit "0")) request token
      grant.claims rfl (by decide) visits.sent found visits.carried
      (congrArg some visits.tokenId)
  exact ⟨request, answer, visits.sent, refusal, recorded⟩

end Application

end Tollgate
