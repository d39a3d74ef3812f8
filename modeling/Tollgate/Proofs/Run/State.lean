import Tollgate.Run

namespace Tollgate

def Step.revoked? : Step → Option (Option Text)
  | .revoke tokenId => some tokenId
  | _ => none

def Step.check? : Step → Option RevocationCheck
  | .setCheck check => some check
  | _ => none

/-- What the host says after these steps of tokens that are not revoked by their id: the check that
was set last, and that all of them pass as long as none was set. -/
def hostCheck (steps : List Step) : RevocationCheck :=
  ((steps.filterMap Step.check?).getLast?).getD .passing

namespace Application

variable {app : Application} {start state : RunState} {steps : List Step}

def stateAfter (app : Application) (start : RunState) (steps : List Step) : RunState :=
  steps.foldl (fun state s => (app.step state s).1) start

theorem stateAfter_append (app : Application) (start : RunState) (steps others : List Step) :
    app.stateAfter start (steps ++ others) = app.stateAfter (app.stateAfter start steps) others :=
  List.foldl_append

def SendsAt (app : Application) (start : RunState) (steps : List Step) (k : Nat)
    (request : Request) : Prop :=
  ∃ draft, steps[k]? = some (.request draft) ∧
    draft.request? app.settings (app.stateAfter start (steps.take k)) = some request

theorem getElem?_run (app : Application) (start : RunState) (steps : List Step) (k : Nat) :
    (app.run start steps)[k]? =
      steps[k]?.map fun s => (app.step (app.stateAfter start (steps.take k)) s).2 := by
  induction steps generalizing start k with
  | nil => rfl
  | cons s steps ih =>
    cases k with
    | zero => rfl
    | succ k => exact ih (app.step start s).1 k

theorem step_revoked (app : Application) (state : RunState) (s : Step) :
    (app.step state s).1.revoked = state.revoked.map (· ++ s.revoked?.toList) := by
  have kept : state.revoked = state.revoked.map (· ++ []) := by simp
  cases s with
  | setClock now => exact kept
  | setCheck check => exact kept
  | revoke tokenId => rfl
  | issue name subject authorities tokenId =>
    simp only [step]
    split <;> exact kept
  | request draft =>
    simp only [step]
    split <;> exact kept

theorem stateAfter_revoked (app : Application) (start : RunState) (steps : List Step) :
    (app.stateAfter start steps).revoked =
      start.revoked.map (· ++ steps.filterMap Step.revoked?) := by
  induction steps generalizing start with
  | nil => simp [stateAfter]
  | cons s steps ih =>
    have rest := ih (app.step start s).1
    rw [step_revoked, Option.map_map] at rest
    refine rest.trans (congrArg (start.revoked.map ·) (funext fun revoked => ?_))
    cases revokes : s.revoked? <;> simp [revokes]

theorem step_check (app : Application) (state : RunState) (s : Step) :
    (app.step state s).1.check = s.check?.getD state.check := by
  cases s with
  | setClock now => rfl
  | setCheck check => rfl
  | revoke tokenId => rfl
  | issue name subject authorities tokenId =>
    simp only [step]
    split <;> rfl
  | request draft =>
    simp only [step]
    split <;> rfl

theorem stateAfter_check (app : Application) (start : RunState) (steps : List Step) :
    (app.stateAfter start steps).check =
      ((steps.filterMap Step.check?).getLast?).getD start.check := by
  induction steps generalizing start with
  | nil => rfl
  | cons s steps ih =>
    have rest := ih (app.step start s).1
    rw [step_check] at rest
    refine rest.trans ?_
    cases sets : s.check? with
    | none => simp [sets]
    | some check => simp [sets, List.getLast?_cons]

theorem check_of_initial (app : Application) (now : Clock) (revocation : Bool)
    (steps : List Step) : (app.stateAfter (initial now revocation) steps).check = hostCheck steps :=
  stateAfter_check app (initial now revocation) steps

theorem mem_revocations {tokenId : Option Text} :
    tokenId ∈ steps.filterMap Step.revoked? ↔ .revoke tokenId ∈ steps := by
  have named (s : Step) : s.revoked? = some tokenId ↔ s = .revoke tokenId := by
    cases s <;> simp [Step.revoked?]
  simp [List.mem_filterMap, named]

theorem createToken_of_issued {name token : Text} {subject authorities : Json} {tokenId : Text}
    (issued : (app.step state (.issue name subject authorities tokenId)).2.result =
      .issued token) :
    (app.providerAt state).createToken state.now tokenId subject authorities = .ok token := by
  simp only [step] at issued
  split at issued
  · rename_i created
    cases issued
    exact created
  · cases issued

theorem step_request {draft : Draft} {request : Request}
    (sent : draft.request? app.settings state = some request) :
    let exchange := (app.handler ((app.providerAt state).toTokenProvider state.now)
      state.now).serve request
    (app.step state (.request draft)).2 =
      ⟨exchange.events, .answered exchange.response exchange.raised⟩ := by
  simp only [step, sent]

theorem request_context {draft : Draft} {settings : Settings} {request : Request}
    (sent : draft.request? settings state = some request) : request.context = none := by
  unfold Draft.request? at sent
  cases bearer : draft.bearer with
  | none =>
    simp only [bearer] at sent
    cases sent
    rfl
  | some name =>
    simp only [bearer] at sent
    obtain ⟨authorization, -, made⟩ := Option.bind_eq_some_iff.mp sent
    cases made
    rfl

end Application

end Tollgate
