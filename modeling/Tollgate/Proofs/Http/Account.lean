import Tollgate.Proofs.Http.Serving

namespace Tollgate

open Traced

theorem Json.compactItems_texts (escape : CodePoint → Text) (names : List Text) :
    compactItems escape (names.map .text) = names.map (string escape) := by
  induction names with
  | nil => rfl
  | cons name names ih =>
    simp only [List.map_cons, compactItems, compactWith, ih]

theorem Token.holds_of_encode {members : Members} {bytes : Bytes}
    (exact : Json.IsExact (.object members))
    (written : Utf8.encode (Json.compactUnicode (.object members)) = some bytes) :
    Holds bytes members :=
  ⟨_, Utf8.decode_of_encode written, Json.read_compactWith Json.escapeLittle_faithful exact⟩

def accountMembers (username : Text) (authorities : List Text) : Members :=
  [(Text.lit "username", .text username),
    (Text.lit "authorities", .list (authorities.map Json.text))]

/-- The answer is an account with this name and these authorities, in this order. -/
def Response.Shows (response : Response) (username : Text) (authorities : List Text) : Prop :=
  response.status = 200 ∧ Token.Holds response.body (accountMembers username authorities)

section

variable {username : Text} {authorities : List Text}

theorem isExact_account (nameScalar : username.hasSurrogate = false)
    (namesScalar : ∀ authority ∈ authorities, authority.hasSurrogate = false) :
    Json.IsExact (.object (accountMembers username authorities)) := by
  have keys : ((accountMembers username authorities).map (·.1)).Nodup := by
    change [Text.lit "username", Text.lit "authorities"].Nodup
    decide
  exact ⟨keys, by decide, nameScalar, by decide, Json.areExact_texts namesScalar, trivial⟩

theorem hasSurrogate_account (username : Text) (authorities : List Text) :
    (Json.compactUnicode (.object (accountMembers username authorities))).hasSurrogate =
      (username.hasSurrogate || authorities.any Text.hasSurrogate) := by
  have comma : (Text.lit ",").hasSurrogate = false := by decide
  have items : (Json.compactItems Json.escapeLittle (authorities.map .text)).any
      Text.hasSurrogate = authorities.any Text.hasSurrogate := by
    rw [Json.compactItems_texts, List.any_map]
    exact congrArg authorities.any (funext Json.hasSurrogate_string)
  have marks : ∀ mark ∈ ["\x7b", "\x7d", "[", "]", ":", "username", "authorities"],
      (Text.lit mark).hasSurrogate = false := by decide
  simp only [List.forall_mem_cons] at marks
  simp only [Json.compactUnicode, accountMembers, Json.compactWith, Json.compactMembers,
    Text.hasSurrogate_append, Text.hasSurrogate_join comma, List.any_cons, List.any_nil,
    Json.hasSurrogate_string, items, marks, Bool.false_or, Bool.or_false]

theorem hasDigits_account (username : Text) (authorities : List Text) :
    Response.hasDigits (.object (accountMembers username authorities)) = true := by
  have names : Response.haveDigits (authorities.map .text) = true := by
    induction authorities with
    | nil => rfl
    | cons name names ih => simpa [Response.haveDigits, Response.hasDigits] using ih
  simp [accountMembers, Response.hasDigits, Response.membersHaveDigits, names]

theorem ofJson_account (username : Text) (authorities : List Text) (status : Nat) :
    Response.ofJson status (.object (accountMembers username authorities)) =
      match Utf8.encode (Json.compactUnicode (.object (accountMembers username authorities))) with
      | none => .error .unencodable
      | some body => .ok (Response.ofJsonBytes status body) := by
  apply Response.ofJson_eq (hasDigits_account username authorities)
  simp [accountMembers, Json.isWritable, Json.membersAreWritable, Json.areWritable_texts]

namespace Handler

theorem jsonAnswer_account_shows {response : Response}
    (given : (jsonAnswer (.object (accountMembers username authorities))).outcome = .ok response) :
    response.Shows username authorities := by
  simp only [jsonAnswer, ofCrash_eq, mapError_eq_ok, ofJson_account] at given
  cases written : Utf8.encode (Json.compactUnicode (.object (accountMembers username authorities)))
  case none => simp [written] at given
  case some body =>
    simp only [written] at given
    cases given
    have scalar := Utf8.hasSurrogate_of_encode written
    rw [hasSurrogate_account, Bool.or_eq_false_iff] at scalar
    have namesScalar (authority : Text) (member : authority ∈ authorities) :
        authority.hasSurrogate = false := by
      simpa using List.any_eq_false.mp scalar.2 authority member
    exact ⟨rfl, Token.holds_of_encode (isExact_account scalar.1 namesScalar) written⟩

theorem exists_jsonAnswer_account (nameScalar : username.hasSurrogate = false)
    (namesScalar : ∀ authority ∈ authorities, authority.hasSurrogate = false) :
    ∃ response, jsonAnswer (.object (accountMembers username authorities)) = pure response := by
  have scalar : (Json.compactUnicode
      (.object (accountMembers username authorities))).hasSurrogate = false := by
    rw [hasSurrogate_account, nameScalar, Bool.false_or, List.any_eq_false]
    simpa using namesScalar
  obtain ⟨body, written⟩ := Utf8.exists_encode scalar
  refine ⟨Response.ofJsonBytes 200 body, ?_⟩
  simp only [jsonAnswer, ofJson_account, written]
  rfl

theorem jsonAnswer_account_error {fault : Fault}
    (failed : (jsonAnswer (.object (accountMembers username authorities))).outcome =
      .error fault) : fault = .crash .unwritableAnswer := by
  simp only [jsonAnswer, ofJson_account, ofCrash_eq] at failed
  cases written : Utf8.encode (Json.compactUnicode (.object (accountMembers username authorities)))
  case none =>
    simp only [written] at failed
    cases failed
    rfl
  case some body => simp [written] at failed

theorem account_of_text {principal : Principal} (named : principal.subject = .text username) :
    account principal = .ok (.object (accountMembers username principal.authorities)) := by
  simp only [account, named]
  rfl

theorem whoAmI_of_principal {context : SecurityContext} {principal : Principal}
    (request : Request) (identified : context.principal = some principal)
    (named : principal.subject = .text username) :
    whoAmI jsonAnswer { request with context := some context } =
      jsonAnswer (.object (accountMembers username principal.authorities)) := by
  unfold whoAmI Request.securityContext
  rw [Option.getD_some]
  have current : context.current = .ok principal := by
    unfold SecurityContext.current
    rw [identified]
  simp only [current, ofExcept_eq, ok_bind, account_of_text named, ofCrash_eq, mapError_ok]
  rfl

theorem whoAmI_of_anonymous {context : SecurityContext} (request : Request)
    (anonymous : context.principal = none) (answer : Json → Traced Response) :
    whoAmI answer { request with context := some context } =
      ⟨[], .error (.api .authenticationRequired none)⟩ := by
  unfold whoAmI Request.securityContext
  rw [Option.getD_some]
  unfold SecurityContext.current
  rw [anonymous]
  rfl

end Handler

end

theorem Router.handle_account (app : Application) (now : Clock) {request : Request}
    (context : SecurityContext) (method : request.method = Text.lit "GET")
    (path : request.path = Text.lit "/accounts/me") :
    handle (app.routes now) { request with context := some context } =
      Handler.whoAmI Handler.jsonAnswer { request with context := some context } := by
  unfold handle
  rw [method, path]
  rfl

namespace Handler

variable {app : Application} {request : Request} {now : Clock}

theorem serve_account {provider : TokenProvider} {events : List Event} {context : SecurityContext}
    {principal : Principal} {username : Text}
    (passes : app.PassesOn provider request events context)
    (method : request.method = Text.lit "GET") (path : request.path = Text.lit "/accounts/me")
    (identified : context.principal = some principal) (named : principal.subject = .text username)
    (nameScalar : username.hasSurrogate = false)
    (namesScalar : ∀ authority ∈ principal.authorities, authority.hasSurrogate = false) :
    ∃ response, (app.handler provider now).serve request = ⟨events, response, none⟩ ∧
      response.Shows username principal.authorities := by
  obtain ⟨response, answered⟩ := exists_jsonAnswer_account nameScalar namesScalar
  have routed := (Router.handle_account app now context method path).trans
    ((whoAmI_of_principal request identified named).trans answered)
  have shows := jsonAnswer_account_shows (congrArg Traced.outcome answered)
  have served := passes.serve_of_ok routed rfl
  rw [pure_events, List.append_nil] at served
  exact ⟨_, served, shows⟩

theorem of_serve_account {provider : JwtProvider} (arriving : request.context = none)
    (method : request.method = Text.lit "GET") (path : request.path = Text.lit "/accounts/me")
    (good : ((app.handler (provider.toTokenProvider now) now).serve request).response.status =
      200) :
    ∃ token claims username authorities, JwtProvider.resolveToken request.headers = some token ∧
      (provider.validateToken now token).outcome = .ok claims ∧
      claims.at? "sub" = some (.text username) ∧ Token.Grants claims authorities ∧
      ((app.handler (provider.toTokenProvider now) now).serve request).response.Shows
        username authorities := by
  have noOptions : request.method ≠ Text.lit "OPTIONS" := by rw [method]; decide
  -- a page with status 200 comes from the routes, and the routes show accounts to principals only
  rcases (Application.admission arriving : app.Admission provider now request) with
    ⟨answer, alone, refusal⟩ | ⟨-, passes⟩ |
      ⟨token, claims, principal, found, valid, subject, grants, passes⟩
  case refused => exact absurd good (alone.serve_status refusal noOptions)
  case anonymous =>
    let context := SecurityContext.empty request.number
    have anonymous : context.principal = none := rfl
    have routed := (Router.handle_account app now context method path).trans
      (whoAmI_of_anonymous request anonymous jsonAnswer)
    rcases passes.serve_of_api routed rfl with ⟨crash, -, crashed⟩ | ⟨record, told⟩
    · rw [crashed] at good
      exact absurd good serverError_status
    · rw [told] at good
      have status : ApiCode.authenticationRequired.response.status = 401 := rfl
      exact absurd (status.symm.trans good) (by decide)
  case identified =>
    obtain ⟨username, named⟩ := JwtProvider.exists_subject valid
    rw [named] at subject
    let context := (SecurityContext.empty request.number).authenticate principal
    have identified : context.principal = some principal := rfl
    have routed := (Router.handle_account app now context method path).trans
      (whoAmI_of_principal request identified (Option.some.inj subject).symm)
    refine ⟨token, claims, username, principal.authorities, found, valid, named, grants, ?_⟩
    cases outcome : (jsonAnswer
        (.object (accountMembers username principal.authorities))).outcome with
    | ok response =>
      have shows := jsonAnswer_account_shows outcome
      rw [passes.serve_of_ok routed outcome]
      exact shows
    | error fault =>
      obtain rfl := jsonAnswer_account_error outcome
      rw [passes.serve_of_unanswered routed outcome rfl] at good
      exact absurd good serverError_status

end Handler

end Tollgate
