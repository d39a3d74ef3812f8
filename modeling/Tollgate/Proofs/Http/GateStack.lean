import Tollgate.Http.GateStack
import Tollgate.Proofs.Http.Admission
import Tollgate.Proofs.Http.Routes

namespace Tollgate

open Traced

def Traced.IsUnmarked {α : Type} (x : Traced α) : Prop :=
  ∀ gate, x.Leaves (GateStack.isValidated gate · = false)

namespace Event

theorem IsLogged.not_validated ⦃event : Event⦄ (logged : event.IsLogged) (gate : Nat) :
    GateStack.isValidated gate event = false := by
  cases event with
  | logged => rfl
  | _ => cases logged

theorem IsScreened.not_validated ⦃event : Event⦄ (screened : event.IsScreened) (gate : Nat) :
    GateStack.isValidated gate event = false := by
  cases event with
  | logged | revocationChecked => rfl
  | _ => cases screened

end Event

namespace Traced

variable {α β : Type}

theorem isUnmarked_of_nil {x : Traced α} (silent : x.events = []) : x.IsUnmarked :=
  fun _ => leaves_of_nil silent

theorem IsUnmarked.of_leaves {x : Traced α} {property : Event → Prop} (leaves : x.Leaves property)
    (outside : ∀ ⦃event⦄, property event → ∀ gate, GateStack.isValidated gate event = false) :
    x.IsUnmarked :=
  fun gate => leaves.mono fun _ holds => outside holds gate

theorem IsUnmarked.bind {x : Traced α} {f : α → Traced β} (first : x.IsUnmarked)
    (rest : ∀ a, (f a).IsUnmarked) : (x >>= f).IsUnmarked :=
  fun gate => (first gate).bind fun a => rest a gate

end Traced

namespace TokenProvider

/-- What is looked for on the trace is left by no method but the validation of tokens. -/
structure LeavesOnlyOnValidation {γ : Type} (provider : TokenProvider) (look : Event → Option γ) :
    Prop where
  resolve : ∀ headers, (provider.resolveToken headers).Leaves (look · = none)
  authenticate : ∀ token claims, (provider.getAuthentication token claims).Leaves (look · = none)

/-- The provider leaves the marks of gates to the gates. -/
structure IsUnmarked (provider : TokenProvider) : Prop where
  resolve : ∀ headers, (provider.resolveToken headers).IsUnmarked
  validate : ∀ token, (provider.validateToken token).IsUnmarked
  authenticate : ∀ token claims, (provider.getAuthentication token claims).IsUnmarked

def foundToken? (provider : TokenProvider) (headers : Headers) : Option Text :=
  match (provider.resolveToken headers).outcome with
  | .ok found => found
  | .error _ => none

/-- The provider finds a token, accepts it with claims that are not empty, and names a principal. -/
def Authenticates (provider : TokenProvider) (headers : Headers) (principal : Principal) : Prop :=
  ∃ token claims, (provider.resolveToken headers).outcome = .ok (some token) ∧
    (provider.validateToken token).outcome = .ok claims ∧ claims.isTruthy = true ∧
    (provider.getAuthentication token claims).outcome = .ok principal

end TokenProvider

namespace Gate

variable {provider : TokenProvider} {providers : List TokenProvider} {request : Request}

theorem layer_of_context {context : SecurityContext} (known : request.context = some context)
    (depth : Nat) (provider : TokenProvider) (next : Handler) :
    layer depth provider next request = next request := by
  unfold layer
  rw [known]

theorem stackFrom_of_context {context : SecurityContext} (known : request.context = some context)
    (depth : Nat) (providers : List TokenProvider) (next : Handler) :
    stackFrom depth providers next request = next request := by
  induction providers generalizing depth with
  | nil => rfl
  | cons provider providers ih =>
    exact (layer_of_context known depth provider _).trans (ih (depth + 1))

theorem stack_eq_layer (arriving : request.context = none) (provider : TokenProvider)
    (providers : List TokenProvider) (next : Handler) :
    stack (provider :: providers) next request = layer 0 provider next request := by
  change layer 0 provider (stackFrom 1 providers next) request = _
  rw [layer_of_new _ _ arriving, layer_of_new _ _ arriving]
  refine congrArg _ (funext fun result => ?_)
  cases result.response with
  | some response => rfl
  | none => exact stackFrom_of_context rfl 1 providers next

section

variable {γ : Type} {look : Event → Option γ}

theorem refuse_leaves_none (unlogged : ∀ record, look (.logged record) = none)
    (request : Request) : (refuse request).Leaves (look · = none) := by
  refine (refuse_leaves request).mono fun event logged => ?_
  cases event with
  | logged record => exact unlogged record
  | _ => cases logged

theorem filterMap_identify (aside : provider.LeavesOnlyOnValidation look) (request : Request)
    (token : Text) : (identify provider request token).events.filterMap look =
      (provider.validateToken token).events.filterMap look := by
  refine filterMap_bind fun claims => ?_
  split
  · exact (aside.authenticate token claims).bind fun principal => leaves_of_nil rfl
  · exact leaves_of_nil rfl

theorem filterMap_screen (unlogged : ∀ record, look (.logged record) = none)
    (aside : provider.LeavesOnlyOnValidation look) (request : Request) :
    (screen provider request).events.filterMap look =
      ((provider.foundToken? request.headers).map fun token =>
        (provider.validateToken token).events.filterMap look).getD [] := by
  have silent := (aside.resolve request.headers).filterMap_eq_nil
  unfold screen TokenProvider.foundToken?
  cases resolved : (provider.resolveToken request.headers).outcome with
  | error fault =>
    rw [bind_of_error resolved]
    exact silent
  | ok found =>
    rw [bind_of_ok resolved, List.filterMap_append, silent, List.nil_append]
    cases found with
    | none => rfl
    | some token =>
      refine (filterMap_handle fun fault => ?_).trans (filterMap_identify aside request token)
      split
      · exact refuse_leaves_none unlogged request
      · exact leaves_of_nil rfl

end

theorem identify_ok {token : Text} {result : GateResult}
    (resolved : (provider.resolveToken request.headers).outcome = .ok (some token))
    (identified : (identify provider request token).outcome = .ok result) :
    result.context.request = request.number ∧ ∀ principal,
      result.context.principal = some principal →
        provider.Authenticates request.headers principal := by
  unfold identify at identified
  obtain ⟨claims, valid, identified⟩ := bind_outcome_ok_iff.mp identified
  split at identified
  · rename_i truthy
    obtain ⟨principal, named, returned⟩ := bind_outcome_ok_iff.mp identified
    cases returned
    refine ⟨rfl, fun other same => ?_⟩
    cases same
    exact ⟨token, claims, resolved, valid, truthy, named⟩
  · cases identified
    exact ⟨rfl, nofun⟩

theorem screen_ok {context : SecurityContext}
    (passed : (screen provider request).outcome = .ok ⟨context, none⟩) :
    context.request = request.number ∧ ∀ principal, context.principal = some principal →
      provider.Authenticates request.headers principal := by
  unfold screen at passed
  obtain ⟨found, resolved, passed⟩ := bind_outcome_ok_iff.mp passed
  cases found with
  | none =>
    cases passed
    exact ⟨rfl, nofun⟩
  | some token =>
    cases identified : (identify provider request token).outcome with
    | ok result =>
      simp only [handle, identified] at passed
      cases passed
      exact identify_ok resolved identified
    | error fault =>
      simp only [handle, identified] at passed
      split at passed
      · rcases refuse_cases request with ⟨crash, crashed⟩ | ⟨record, answered⟩
        · simp [crashed] at passed
        · simp [answered] at passed
      · cases passed

theorem authenticate_ok {depth : Nat} {context : SecurityContext}
    (passed : (authenticate depth provider request).outcome = .ok ⟨context, none⟩) :
    context.request = request.number ∧ ∀ principal, context.principal = some principal →
      provider.Authenticates request.headers principal := by
  obtain ⟨own, authenticated⟩ := screen_ok passed
  refine ⟨own, fun principal named => ?_⟩
  obtain ⟨token, claims, resolved, valid, truthy, principalOf⟩ := authenticated principal named
  exact ⟨token, claims, resolved, valid, truthy, principalOf⟩

/-- The gates answer, whatever stands behind them. -/
def Stops (providers : List TokenProvider) (request : Request) : Prop :=
  ∃ answer, ∀ next, stack providers next request = answer

/-- The gates show this context to what stands behind them. -/
def Shows (providers : List TokenProvider) (request : Request) (context : SecurityContext) : Prop :=
  ∃ events : List Event, ∀ next, stack providers next request =
    (⟨events, .ok ()⟩ : Traced Unit) >>= fun _ => next { request with context := some context }

theorem stops_or_shows (arriving : request.context = none) (provider : TokenProvider)
    (providers : List TokenProvider) :
    Stops (provider :: providers) request ∨
      ∃ context, Shows (provider :: providers) request context ∧
        context.request = request.number ∧ ∀ principal, context.principal = some principal →
          provider.Authenticates request.headers principal := by
  have stacked (next : Handler) := (stack_eq_layer arriving provider providers next).trans
    (layer_of_new 0 provider arriving next)
  cases outcome : (authenticate 0 provider request).outcome with
  | error fault =>
    refine .inl ⟨⟨(authenticate 0 provider request).events, .error fault⟩, fun next => ?_⟩
    rw [stacked, bind_of_error outcome]
  | ok result =>
    obtain ⟨context, response⟩ := result
    cases response with
    | some response =>
      refine .inl ⟨⟨(authenticate 0 provider request).events, .ok response⟩, fun next => ?_⟩
      rw [stacked, bind_of_ok outcome, pure_events, List.append_nil]
      rfl
    | none =>
      refine .inr ⟨context, ⟨(authenticate 0 provider request).events, fun next => ?_⟩,
        authenticate_ok outcome⟩
      rw [stacked, bind_of_ok outcome]
      rfl

theorem Shows.unique {context another : SecurityContext} (first : Shows providers request context)
    (second : Shows providers request another) : context = another := by
  obtain ⟨events, shown⟩ := first
  obtain ⟨others, alsoShown⟩ := second
  have same := (shown (Application.probe context)).symm.trans (alsoShown _)
  by_contra differ
  simp [Application.probe, Ne.symm differ] at same

theorem Stops.not_shows {context : SecurityContext} (stops : Stops providers request) :
    ¬ Shows providers request context := by
  rintro ⟨events, shown⟩
  obtain ⟨answer, stopped⟩ := stops
  have first := (stopped fun _ => crash .wrongType).symm.trans (shown _)
  have second := (stopped fun _ => crash .wrongValue).symm.trans (shown _)
  cases first.symm.trans second

end Gate

namespace GateStack

def arriving (number : Nat) (request : Request) : Request :=
  { request with number, context := none }

/-- The answers to requests in their order, where the providers may change from request to request
and the handler may be any. `run` is the case of fixed providers before the routes. -/
def serveAll (providers : Nat → List TokenProvider) (next : Handler) (requests : List Request) :
    List Exchange :=
  requests.mapIdx fun number request =>
    (Gate.stack (providers number) next).serve (arriving number request)

theorem getElem?_serveAll (providers : Nat → List TokenProvider) (next : Handler)
    (requests : List Request) (k : Nat) :
    (serveAll providers next requests)[k]? = requests[k]?.map fun request =>
      (Gate.stack (providers k) next).serve (arriving k request) :=
  List.getElem?_mapIdx

theorem served {providers : Nat → List TokenProvider} {next : Handler} {requests : List Request}
    {k : Nat} {request : Request} (here : requests[k]? = some request) :
    (serveAll providers next requests)[k]? =
      some ((Gate.stack (providers k) next).serve (arriving k request)) := by
  rw [getElem?_serveAll, here]
  rfl

end GateStack

theorem JwtProvider.toTokenProvider_isUnmarked (provider : JwtProvider) (now : Clock) :
    (provider.toTokenProvider now).IsUnmarked where
  resolve headers := isUnmarked_of_nil rfl
  validate token := by
    refine IsUnmarked.bind ?_ fun claims => isUnmarked_of_nil rfl
    exact .of_leaves (validateToken_leaves provider now token) Event.IsScreened.not_validated
  authenticate token claims := .of_leaves (principalOf_leaves claims) Event.IsLogged.not_validated

theorem Router.handle_isUnmarked {routes : List Route}
    (each : ∀ route ∈ routes, ∀ request, (route.handler request).IsUnmarked) (request : Request) :
    (handle routes request).IsUnmarked :=
  fun gate => handle_leaves (fun route member request => each route member request gate) request

namespace GateStack

theorem routes_isUnmarked : ∀ route ∈ routes, ∀ request, (route.handler request).IsUnmarked := by
  intro route member request
  rcases List.mem_cons.mp member with rfl | member
  · refine IsUnmarked.bind (fun gate event member => ?_) fun _ => isUnmarked_of_nil rfl
    cases List.mem_singleton.mp member
    rfl
  · cases List.mem_singleton.mp member
    exact (isUnmarked_of_nil rfl).bind fun _ =>
      (isUnmarked_of_nil rfl).bind fun _ => isUnmarked_of_nil rfl

/-- What a stack of gates has in common with its outermost gate alone, over a sequence of requests.
What only the validation of a token leaves on the trace is there once for each request in which the
outermost provider finds a token, and is never left by a provider further in; the marks of the
calls, which are numbered by the gates, are a case of it. Every request that comes to the handler
does so in a context of its own. -/
structure ActsAsOutermost (outer : Nat → TokenProvider) (inner : Nat → List TokenProvider)
    (handler : Handler) (requests : List Request) : Prop where
  exchanges : serveAll (fun k => outer k :: inner k) handler requests =
    serveAll (fun k => [outer k]) handler requests
  validated : ∀ {γ : Type} (look : Event → Option γ), (∀ record, look (.logged record) = none) →
    (∀ k, (outer k).LeavesOnlyOnValidation look) →
    (∀ request, (handler request).Leaves (look · = none)) →
    ∀ k request, requests[k]? = some request → ∃ exchange,
      (serveAll (fun k => outer k :: inner k) handler requests)[k]? = some exchange ∧
      exchange.events.filterMap look = (((outer k).foundToken? request.headers).map fun token =>
        (((outer k).recorded 0).validateToken token).events.filterMap look).getD []
  validations : (∀ k, (outer k).IsUnmarked) → (∀ request, (handler request).IsUnmarked) →
    ∀ k request, requests[k]? = some request → ∃ exchange,
      (serveAll (fun k => outer k :: inner k) handler requests)[k]? = some exchange ∧
      ∀ gate, exchange.events.countP (isValidated gate) =
        if gate = 0 ∧ ((outer k).foundToken? request.headers).isSome then 1 else 0
  reached : ∀ k request, requests[k]? = some request →
    (Gate.Stops (outer k :: inner k) (arriving k request) ∧
      Gate.Stops [outer k] (arriving k request)) ∨
    ∃ context, Gate.Shows (outer k :: inner k) (arriving k request) context ∧
      Gate.Shows [outer k] (arriving k request) context
  authenticated : ∀ k request context principal, requests[k]? = some request →
    Gate.Shows (outer k :: inner k) (arriving k request) context →
    context.principal = some principal → (outer k).Authenticates request.headers principal
  distinct : ∀ j k first second context another, requests[j]? = some first →
    requests[k]? = some second → j ≠ k →
    Gate.Shows (outer j :: inner j) (arriving j first) context →
    Gate.Shows (outer k :: inner k) (arriving k second) another → context ≠ another

theorem shows_iff (request : Request) (k : Nat) (provider : TokenProvider)
    (providers : List TokenProvider) (context : SecurityContext) :
    Gate.Shows (provider :: providers) (arriving k request) context ↔
      Gate.Shows [provider] (arriving k request) context := by
  have arrives : (arriving k request).context = none := rfl
  unfold Gate.Shows
  simp only [Gate.stack_eq_layer arrives]

theorem stops_iff (request : Request) (k : Nat) (provider : TokenProvider)
    (providers : List TokenProvider) :
    Gate.Stops (provider :: providers) (arriving k request) ↔
      Gate.Stops [provider] (arriving k request) := by
  have arrives : (arriving k request).context = none := rfl
  unfold Gate.Stops
  simp only [Gate.stack_eq_layer arrives]

theorem shows_context {request : Request} {k : Nat} {provider : TokenProvider}
    {providers : List TokenProvider} {context : SecurityContext}
    (shown : Gate.Shows (provider :: providers) (arriving k request) context) :
    context.request = k ∧ ∀ principal, context.principal = some principal →
      provider.Authenticates request.headers principal := by
  have arrives : (arriving k request).context = none := rfl
  rcases Gate.stops_or_shows arrives provider providers with stops | ⟨other, also, own⟩
  · exact absurd shown stops.not_shows
  · cases shown.unique also
    exact own

theorem filterMap_serve {γ : Type} {look : Event → Option γ}
    (unlogged : ∀ record, look (.logged record) = none) {provider : TokenProvider}
    (aside : provider.LeavesOnlyOnValidation look) (providers : List TokenProvider)
    {handler : Handler} (quiet : ∀ request, (handler request).Leaves (look · = none))
    (request : Request) (k : Nat) :
    ((Gate.stack (provider :: providers) handler).serve
        (arriving k request)).events.filterMap look =
      ((provider.foundToken? request.headers).map fun token =>
        ((provider.recorded 0).validateToken token).events.filterMap look).getD [] := by
  have arrives : (arriving k request).context = none := rfl
  have asideToo : (provider.recorded 0).LeavesOnlyOnValidation look :=
    ⟨aside.resolve, aside.authenticate⟩
  rw [Handler.serve_events, Gate.stack_eq_layer arrives, Gate.layer_of_new _ _ arrives,
    filterMap_bind]
  · exact Gate.filterMap_screen unlogged asideToo (arriving k request)
  · intro result
    cases result.response with
    | some response => exact leaves_of_nil rfl
    | none => exact quiet _

theorem countP_serve {provider : TokenProvider} (unmarked : provider.IsUnmarked)
    (providers : List TokenProvider) {handler : Handler}
    (quiet : ∀ request, (handler request).IsUnmarked) (request : Request) (k gate : Nat) :
    ((Gate.stack (provider :: providers) handler).serve
        (arriving k request)).events.countP (isValidated gate) =
      if gate = 0 ∧ (provider.foundToken? request.headers).isSome then 1 else 0 := by
  let look := Option.guard (isValidated gate)
  have unseen {α : Type} {x : Traced α} (marks : x.IsUnmarked) : x.Leaves (look · = none) :=
    (marks gate).mono fun event unmarked => by simp [look, Option.guard, unmarked]
  have aside : provider.LeavesOnlyOnValidation look :=
    ⟨fun headers => unseen (unmarked.resolve headers),
      fun token claims => unseen (unmarked.authenticate token claims)⟩
  have unlogged (record : LogRecord) : look (.logged record) = none := rfl
  have left := filterMap_serve unlogged aside providers (fun request => unseen (quiet request))
    request k
  have counted (events : List Event) :
      events.countP (isValidated gate) = (events.filterMap look).length := by
    rw [List.filterMap_eq_filter, List.countP_eq_length_filter]
  rw [counted, left]
  cases provider.foundToken? request.headers with
  | none => simp
  | some token =>
    have silent := (unseen (unmarked.validate token)).filterMap_eq_nil
    have marked : ((provider.recorded 0).validateToken token).events.filterMap look =
        (look (.validated 0)).toList := by
      rw [provider.recorded_validateToken, List.filterMap_cons, silent]
      cases look (.validated 0) <;> rfl
    rw [Option.map_some, Option.getD_some, marked]
    by_cases own : gate = 0
    · simp [look, isValidated, own]
    · simp [look, Option.guard, isValidated, own, Ne.symm own]

theorem stack_acts_as_outermost (outer : Nat → TokenProvider) (inner : Nat → List TokenProvider)
    (handler : Handler) (requests : List Request) :
    ActsAsOutermost outer inner handler requests where
  exchanges := by
    refine List.ext_getElem? fun k => ?_
    rw [getElem?_serveAll, getElem?_serveAll]
    refine congrArg (requests[k]?.map ·) (funext fun request => ?_)
    have arrives : (arriving k request).context = none := rfl
    simp only [Handler.serve, Gate.stack_eq_layer arrives]
  validated look unlogged aside quiet k request here :=
    ⟨_, served here, filterMap_serve unlogged (aside k) (inner k) quiet request k⟩
  validations unmarked quiet k request here :=
    ⟨_, served here, countP_serve (unmarked k) (inner k) quiet request k⟩
  reached k request here := by
    have arrives : (arriving k request).context = none := rfl
    rcases Gate.stops_or_shows arrives (outer k) (inner k) with stops | ⟨context, shown, -⟩
    · exact .inl ⟨stops, (stops_iff request k _ _).mp stops⟩
    · exact .inr ⟨context, shown, (shows_iff request k _ _ context).mp shown⟩
  authenticated k request context principal here shown named :=
    (shows_context shown).2 principal named
  distinct j k first second context another _ _ differ shown alsoShown := by
    rintro rfl
    exact differ ((shows_context shown).1.symm.trans (shows_context alsoShown).1)

def crashingProvider : TokenProvider where
  resolveToken _ := pure (some [])
  validateToken _ := crash .wrongValue
  getAuthentication _ _ := crash .wrongValue

theorem crashing_gate_unnoticed :
    let requests :=
      [Application.malformedRequest, { Application.malformedRequest with headers := [] }]
    let provider := JwtProvider.plainProvider.toTokenProvider (.whole 0)
    ∀ (k : Nat) (request : Request), requests[k]? = some request → ∃ exchange : Exchange,
      (run [provider, crashingProvider] requests)[k]? = some exchange ∧
        ∀ gate, exchange.events.countP (isValidated gate) =
          if gate = 0 ∧ (provider.foundToken? request.headers).isSome then 1 else 0 :=
  (stack_acts_as_outermost (fun _ => JwtProvider.plainProvider.toTokenProvider (.whole 0))
    (fun _ => [crashingProvider]) (Router.handle routes) _).validations
    (fun _ => JwtProvider.toTokenProvider_isUnmarked _ _)
    (Router.handle_isUnmarked routes_isUnmarked)

end GateStack

end Tollgate
