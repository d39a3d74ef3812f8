import Tollgate.Proofs.Http.Gate
import Tollgate.Proofs.Http.Precedence
import Tollgate.Proofs.Token.Issue

namespace Tollgate

open Traced

theorem BodyLimit.layer_of_crash {maxBytes : Int} {request : Request} {crash : Crash}
    (unreadable : declared request.headers = .error crash) (next : Handler) :
    layer maxBytes next request = ⟨[], .error (.crash crash)⟩ := by
  unfold layer
  rw [unreadable]
  rfl

namespace Application

/-- The layers answer with a refusal, unless it is a preflight that they answer. -/
def Refuses (request : Request) (answer : Traced Response) : Prop :=
  answer.calls = [] ∧ ∀ response, answer.outcome = .ok response →
    request.method = Text.lit "OPTIONS" ∨ response.status = 401 ∨ response.status = 413

inductive Admission (app : Application) (provider : JwtProvider) (now : Clock)
    (request : Request) : Prop where
  | refused (answer : Traced Response) :
    app.AnswersAlone (provider.toTokenProvider now) request answer → Refuses request answer →
    Admission app provider now request
  | anonymous : JwtProvider.resolveToken request.headers = none →
    app.PassesOn (provider.toTokenProvider now) request [] (SecurityContext.empty request.number) →
    Admission app provider now request
  | identified (token : Text) (claims : Members) (principal : Principal) :
    JwtProvider.resolveToken request.headers = some token →
    (provider.validateToken now token).outcome = .ok claims →
    claims.at? "sub" = some principal.subject → Token.Grants claims principal.authorities →
    app.PassesOn (provider.toTokenProvider now) request
      (.validated 0 :: (provider.validateToken now token).events)
      ((SecurityContext.empty request.number).authenticate principal) →
    Admission app provider now request

/-- The layers before the gate answer: a preflight, or a body that is too large or whose length
cannot be read. -/
structure AnswersEarly (app : Application) (request : Request) (answer : Traced Response) :
    Prop where
  alone : ∀ provider, app.AnswersAlone provider request answer
  silent : answer.events = []
  status : ∀ response, answer.outcome = .ok response →
    request.method = Text.lit "OPTIONS" ∨ response.status = 413

theorem early_or_reachesGate (app : Application) (request : Request) :
    (∃ answer, app.AnswersEarly request answer) ∨
      ∃ length, app.ReachesGate request ∧ BodyLimit.declared request.headers = .ok length := by
  by_cases preflight : ∃ origin method, request.IsPreflight origin method
  · obtain ⟨origin, method, asked⟩ := preflight
    exact .inl ⟨_, fun provider => around_of_preflight provider asked, rfl, fun _ _ => .inl asked.1⟩
  have noPreflight (origin method : Text) : ¬ request.IsPreflight origin method :=
    fun asked => preflight ⟨origin, method, asked⟩
  cases declared : BodyLimit.declared request.headers with
  | error crash =>
    refine .inl ⟨⟨[], .error (.crash crash)⟩, fun provider next => ?_, rfl, nofun⟩
    unfold around
    rw [Cors.layer_of_other noPreflight, BodyLimit.layer_of_crash declared]
    rfl
  | ok length =>
    by_cases large : ∃ length, request.Declares length ∧ app.settings.maxBodyBytes < length
    · obtain ⟨other, declares, large⟩ := large
      refine .inl ⟨_, fun provider => around_of_large provider noPreflight declares large, rfl, ?_⟩
      intro response given
      cases given
      exact .inr rfl
    · exact .inr ⟨length, ⟨noPreflight, fun other declares =>
        Int.not_lt.mp fun exceeds => large ⟨other, declares, exceeds⟩⟩, rfl⟩

section

variable {app : Application} {provider : JwtProvider} {now : Clock} {request : Request}

theorem passesOn_of_anonymous (arriving : request.context = none)
    (reaches : app.ReachesGate request) {length : Option Int}
    (declared : BodyLimit.declared request.headers = .ok length)
    (noToken : JwtProvider.resolveToken request.headers = none) :
    app.PassesOn (provider.toTokenProvider now) request []
      (SecurityContext.empty request.number) := by
  intro next
  rw [around_of_reachesGate (provider.toTokenProvider now) reaches declared,
    Gate.layer_of_anonymous 0 arriving noToken]
  rfl

theorem passesOn_of_valid (arriving : request.context = none) (reaches : app.ReachesGate request)
    {length : Option Int} (declared : BodyLimit.declared request.headers = .ok length)
    {token : Text} {claims : Members}
    (found : JwtProvider.resolveToken request.headers = some token)
    (valid : (provider.validateToken now token).outcome = .ok claims) :
    ∃ principal : Principal, claims.at? "sub" = some principal.subject ∧
      Token.Grants claims principal.authorities ∧
      app.PassesOn (provider.toTokenProvider now) request
        (.validated 0 :: (provider.validateToken now token).events)
        ((SecurityContext.empty request.number).authenticate principal) := by
  obtain ⟨principal, subject, grants, passed⟩ := Gate.layer_of_identified 0 arriving found valid
  refine ⟨principal, subject, grants, fun next => ?_⟩
  rw [around_of_reachesGate (provider.toTokenProvider now) reaches declared, passed]
  rfl

theorem around_of_fault (arriving : request.context = none) (reaches : app.ReachesGate request)
    {length : Option Int} (declared : BodyLimit.declared request.headers = .ok length)
    {token : Text} {fault : Fault}
    (found : JwtProvider.resolveToken request.headers = some token)
    (failed : (provider.validateToken now token).outcome = .error fault)
    (other : ∀ cause, fault ≠ .api .invalidExpiredToken cause) :
    app.AnswersAlone (provider.toTokenProvider now) request
      ⟨.validated 0 :: (provider.validateToken now token).events, .error fault⟩ := by
  intro next
  rw [around_of_reachesGate (provider.toTokenProvider now) reaches declared,
    Gate.layer_of_fault 0 arriving found failed other]
  rfl

theorem admission_of_reachesGate (arriving : request.context = none)
    (reaches : app.ReachesGate request) {length : Option Int}
    (declared : BodyLimit.declared request.headers = .ok length) :
    app.Admission provider now request := by
  cases found : JwtProvider.resolveToken request.headers with
  | none => exact .anonymous found (passesOn_of_anonymous arriving reaches declared found)
  | some token =>
    cases validation : (provider.validateToken now token).outcome with
    | ok claims =>
      obtain ⟨principal, subject, grants, passes⟩ :=
        passesOn_of_valid arriving reaches declared found validation
      exact .identified token claims principal found validation subject grants passes
    | error fault =>
      by_cases flawed : ∃ cause, fault = .api .invalidExpiredToken cause
      · obtain ⟨cause, rfl⟩ := flawed
        obtain ⟨answer, alone, quiet, shown⟩ :=
          around_of_refused arriving reaches declared found validation
        exact .refused answer alone
          ⟨quiet, fun response given => .inr (.inl (shown response given).1)⟩
      · have other (cause : Option Cause) : fault ≠ .api .invalidExpiredToken cause :=
          fun same => flawed ⟨cause, same⟩
        exact .refused _ (around_of_fault arriving reaches declared found validation other)
          ⟨provider.validateToken_calls now token, nofun⟩

theorem admission (arriving : request.context = none) : app.Admission provider now request := by
  rcases app.early_or_reachesGate request with ⟨answer, early⟩ | ⟨length, reaches, declared⟩
  · refine .refused answer (early.alone _) ⟨?_, fun response given => ?_⟩
    · rw [calls, early.silent]
      rfl
    · rcases early.status response given with options | large
      · exact .inl options
      · exact .inr (.inr large)
  · exact admission_of_reachesGate arriving reaches declared

/-- A handler that crashes in one context and not in the others tells contexts apart. -/
def probe (context : SecurityContext) : Handler := fun request =>
  if request.context = some context then crash .wrongType else crash .wrongValue

theorem PassesOn.unique {provider : TokenProvider} {events others : List Event}
    {context another : SecurityContext} (first : app.PassesOn provider request events context)
    (second : app.PassesOn provider request others another) :
    events = others ∧ context = another := by
  have same := (first (probe context)).symm.trans (second (probe context))
  by_cases equal : another = context
  · subst equal
    simp [probe] at same
    exact ⟨same, rfl⟩
  · simp [probe, equal, Except.map] at same

theorem AnswersAlone.not_passesOn {provider : TokenProvider} {answer : Traced Response}
    {events : List Event} {context : SecurityContext}
    (alone : app.AnswersAlone provider request answer) :
    ¬ app.PassesOn provider request events context := by
  intro passes
  have first := (alone (fun _ => crash .wrongType)).symm.trans (passes _)
  have second := (alone (fun _ => crash .wrongValue)).symm.trans (passes _)
  cases first.symm.trans second

end

end Application

end Tollgate
