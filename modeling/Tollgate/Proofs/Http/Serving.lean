import Tollgate.Proofs.Http.Admission

namespace Tollgate

open Traced

theorem Response.ofJson_eq {value : Json} (digits : hasDigits value = true)
    (writable : value.isWritable = true) (status : Nat) :
    ofJson status value = match Utf8.encode (Json.compactUnicode value) with
      | none => .error .unencodable
      | some body => .ok (ofJsonBytes status body) := by
  have plain : ¬ (!hasDigits value || !value.isWritable) = true := by simp [digits, writable]
  exact if_neg plain

theorem ApiCode.apiError_response (code : ApiCode) :
    ApiError.response ⟨code, none⟩ code.status = .ok code.response := by
  have ascii : (Json.compactUnicode (ApiError.json ⟨code, none⟩)).isAscii = true := by
    cases code <;> decide
  have written := Utf8.encode_lowBytes ascii
  simp only [ApiError.response, Response.ofJson, written]
  rfl

namespace Handler

variable {next : Handler} {request : Request}

theorem reportErrors_of_ok {response : Response}
    (answered : (next request).outcome = .ok response) :
    reportErrors next request = next request := by
  unfold reportErrors handle
  rw [answered]

theorem reportErrors_of_unanswered {fault : Fault} (failed : (next request).outcome = .error fault)
    (unanswered : answerTo? request fault = none) :
    reportErrors next request = ⟨(next request).events, .error fault⟩ := by
  unfold reportErrors handle
  simp only [failed, unanswered, Option.getD_none, fail_eq, List.append_nil]

theorem reportErrors_of_answered {fault : Fault} {answer : Traced Response}
    (failed : (next request).outcome = .error fault)
    (answered : answerTo? request fault = some answer) :
    reportErrors next request = ⟨(next request).events ++ answer.events, answer.outcome⟩ := by
  unfold reportErrors handle
  simp only [failed, answered, Option.getD_some]

theorem tellError_cases (request : Request) (code : ErrorCode) :
    (∃ crash, request.queryText = .error crash ∧
      tellError request code = ⟨[], .error (.crash crash)⟩) ∨
    ∃ record, tellError request code =
      ⟨[.logged record], (ApiError.response ⟨code, none⟩ code.status).mapError .crash⟩ := by
  unfold tellError Request.urlPath
  cases readable : request.queryText with
  | error crash => exact .inl ⟨crash, rfl, rfl⟩
  | ok query => exact .inr ⟨_, rfl⟩

theorem serverError_status : serverError.status ≠ 200 := by decide

theorem serve_of_ok {response : Response} (answered : (next request).outcome = .ok response) :
    serve next request = ⟨(next request).events, response, none⟩ := by
  simp only [serve, answered]

theorem serve_of_error {fault : Fault} (failed : (next request).outcome = .error fault) :
    serve next request = ⟨(next request).events, serverError, some fault.fromCoroutine⟩ := by
  simp only [serve, failed]

end Handler

namespace Application

variable {app : Application} {now : Clock} {request : Request} {provider : TokenProvider}

section

variable {events : List Event} {context : SecurityContext} {page : Traced Response}

theorem PassesOn.serve_of_ok {response : Response}
    (passes : app.PassesOn provider request events context)
    (routed : Router.handle (app.routes now) { request with context := some context } = page)
    (answered : page.outcome = .ok response) :
    (app.handler provider now).serve request =
      ⟨events ++ page.events,
        response.withHeaders (Cors.simpleHeaders app.settings.origins request.headers), none⟩ := by
  subst routed
  have through : app.handler provider now request = _ := passes _
  rw [Handler.reportErrors_of_ok answered, answered] at through
  rw [Handler.serve_of_ok (congrArg Traced.outcome through), through]

theorem PassesOn.serve_of_unanswered {fault : Fault}
    (passes : app.PassesOn provider request events context)
    (routed : Router.handle (app.routes now) { request with context := some context } = page)
    (failed : page.outcome = .error fault)
    (unanswered : Handler.answerTo? { request with context := some context } fault = none) :
    (app.handler provider now).serve request =
      ⟨events ++ page.events, Handler.serverError, some fault.fromCoroutine⟩ := by
  subst routed
  have through : app.handler provider now request = _ := passes _
  rw [Handler.reportErrors_of_unanswered failed unanswered] at through
  rw [Handler.serve_of_error (congrArg Traced.outcome through), through]

theorem PassesOn.serve_of_answered {fault : Fault} {answer : Traced Response}
    (passes : app.PassesOn provider request events context)
    (routed : Router.handle (app.routes now) { request with context := some context } = page)
    (failed : page.outcome = .error fault)
    (answered : Handler.answerTo? { request with context := some context } fault = some answer) :
    (∃ response, answer.outcome = .ok response ∧ (app.handler provider now).serve request =
      ⟨events ++ (page.events ++ answer.events),
        response.withHeaders (Cors.simpleHeaders app.settings.origins request.headers), none⟩) ∨
    ∃ other : Fault, answer.outcome = .error other ∧ (app.handler provider now).serve request =
      ⟨events ++ (page.events ++ answer.events), Handler.serverError,
        some other.fromCoroutine⟩ := by
  subst routed
  have through : app.handler provider now request = _ := passes _
  rw [Handler.reportErrors_of_answered failed answered] at through
  cases ended : answer.outcome with
  | ok response =>
    rw [ended] at through
    refine .inl ⟨response, rfl, ?_⟩
    rw [Handler.serve_of_ok (congrArg Traced.outcome through), through]
  | error other =>
    rw [ended] at through
    refine .inr ⟨other, rfl, ?_⟩
    rw [Handler.serve_of_error (congrArg Traced.outcome through), through]

theorem PassesOn.serve_of_api {code : ApiCode} {cause : Option Cause}
    (passes : app.PassesOn provider request events context)
    (routed : Router.handle (app.routes now) { request with context := some context } = page)
    (failed : page.outcome = .error (.api code cause)) :
    (∃ crash, request.queryText = .error crash ∧ (app.handler provider now).serve request =
      ⟨events ++ page.events, Handler.serverError, some (Fault.crash crash).fromCoroutine⟩) ∨
    ∃ record, (app.handler provider now).serve request =
      ⟨events ++ (page.events ++ [.logged record]),
        code.response.withHeaders (Cors.simpleHeaders app.settings.origins request.headers),
        none⟩ := by
  have served := passes.serve_of_answered routed failed rfl
  rcases Handler.tellError_cases { request with context := some context } code with
    ⟨crash, unreadable, crashed⟩ | ⟨record, told⟩
  · rw [crashed] at served
    obtain ⟨_, ⟨⟩, -⟩ | ⟨_, ⟨⟩, served⟩ := served
    rw [List.append_nil] at served
    exact .inl ⟨crash, unreadable, served⟩
  · have answered : ApiError.response ⟨code, none⟩ code.errorCode.status = .ok code.response :=
      code.apiError_response
    rw [told, answered] at served
    obtain ⟨_, ⟨⟩, served⟩ | ⟨_, ⟨⟩, -⟩ := served
    exact .inr ⟨record, served⟩

end

theorem AnswersAlone.serve_status {answer : Traced Response}
    (alone : app.AnswersAlone provider request answer) (refusal : Refuses request answer)
    (noOptions : request.method ≠ Text.lit "OPTIONS") :
    ((app.handler provider now).serve request).response.status ≠ 200 := by
  have through : app.handler provider now request = answer := alone _
  cases outcome : answer.outcome with
  | error fault =>
    rw [Handler.serve_of_error ((congrArg Traced.outcome through).trans outcome)]
    exact Handler.serverError_status
  | ok response =>
    rw [Handler.serve_of_ok ((congrArg Traced.outcome through).trans outcome)]
    rcases refusal.2 response outcome with options | unauthorized | large
    · exact absurd options noOptions
    · simp [unauthorized]
    · simp [large]

end Application

end Tollgate
