import Mathlib.Data.List.Forall2
import Tollgate.Proofs.Trace
import Tollgate.Proofs.Webhook.Action
import Tollgate.Webhook.Service

namespace Tollgate

/-- A computation does what the action says. With resources it can also crash on the spelling of a
value, before any call. -/
inductive Follows (billing : Billing) (style : ObjectStyle) (action : Action)
    (run : Traced Unit) : Prop where
  | exactly (calls : run.calls = action.calls) (outcome : run.outcome = action.outcome billing)
  | crashed (resource : style = .resource) (crash : Crash) (calls : run.calls = [])
    (outcome : run.outcome = .error (.crash crash))

section Follows

variable {billing : Billing} {style : ObjectStyle} {action : Action} {event : Members}

theorem Follows.of_plain {run : Traced Unit} (follows : Follows billing .plain action run) :
    run.calls = action.calls ∧ run.outcome = action.outcome billing := by
  cases follows with
  | exactly calls outcome => exact ⟨calls, outcome⟩
  | crashed resource => cases resource

theorem Follows.eq_billing {run : Traced Unit} (follows : Follows billing style action run)
    (called : run.calls ≠ []) : ∃ call, run.calls = [call] ∧ run.outcome = billing call := by
  cases follows with
  | exactly calls outcome =>
    rw [calls] at called ⊢
    rw [outcome]
    cases action with
    | sync | delinquent => exact ⟨_, rfl, rfl⟩
    | missing | ignored => exact absurd rfl called
  | crashed _ _ calls => exact absurd calls called

theorem Follows.after_crash {α : Type} {x : Except Crash α} {f : α → Traced Unit}
    (total : style = .plain → ∃ a, x = .ok a)
    (rest : ∀ a, x = .ok a → Follows billing style action (f a)) :
    Follows billing style action (Traced.ofCrash x >>= f) := by
  cases h : x with
  | ok a => exact rest a h
  | error crash =>
    refine .crashed ?_ crash rfl rfl
    cases style with
    | plain =>
      obtain ⟨a, ok⟩ := total rfl
      exact absurd (ok.symm.trans h) nofun
    | resource => rfl

theorem Follows.after_log {level : LogLevel} {source : LogSource} {message : Text}
    {run : Traced Unit} (rest : Follows billing style action run) :
    Follows billing style action (Traced.log level source message >>= fun _ => run) := by
  cases rest with
  | exactly calls outcome => exact .exactly calls outcome
  | crashed resource crash calls outcome => exact .crashed resource crash calls outcome

theorem ObjectStyle.display_total (value : Json) (plain : style = .plain) :
    ∃ text, style.display value = .ok text := by
  subst plain
  exact ⟨_, rfl⟩

theorem BillingEvent.classify_total (event : Members) (plain : style = .plain) :
    ∃ sorted, classify style event = .ok sorted := by
  subst plain
  unfold classify
  cases event.at? "type" with
  | none => exact ⟨_, rfl⟩
  | some type => cases type <;> exact ⟨_, rfl⟩

theorem BillingEvent.classify_of_text {type : Text} {sorted : BillingEvent}
    (found : event.at? "type" = some (.text type)) (ok : classify style event = .ok sorted) :
    ∃ id, sorted = ofType event id type := by
  unfold classify at ok
  rw [found] at ok
  obtain ⟨id, -, same⟩ := bind_eq_ok.1 ok
  cases same
  exact ⟨id, rfl⟩

theorem BillingEvent.classify_of_other {sorted : BillingEvent}
    (other : ∀ type, event.at? "type" ≠ some (.text type))
    (ok : classify style event = .ok sorted) : ∃ id type, sorted = .unhandled id type := by
  unfold classify at ok
  obtain ⟨id, -, ok⟩ := bind_eq_ok.1 ok
  split at ok
  · rename_i type found
    exact absurd found (other type)
  · obtain ⟨id, -, ok⟩ := bind_eq_ok.1 ok
    obtain ⟨type, -, same⟩ := bind_eq_ok.1 ok
    cases same
    exact ⟨_, _, rfl⟩

namespace WebhookService

theorem handleInvoicePayment_follows (type : Json) (invoice : Members) :
    Follows billing style (.sync (Invoice.customer? invoice) (Invoice.subscription? invoice))
      (handleInvoicePayment billing style type (.object invoice)) := by
  refine .after_crash (ObjectStyle.display_total _) fun number _ => ?_
  refine .after_crash (ObjectStyle.display_total _) fun type _ => ?_
  exact .after_log (.exactly rfl rfl)

theorem handleDelinquentCustomer_follows (subscription : Members) :
    Follows billing style (.delinquent subscription)
      (handleDelinquentCustomer billing style (.object subscription)) := by
  refine .after_crash (ObjectStyle.display_total _) fun customer _ => ?_
  exact .after_log (.exactly rfl rfl)

theorem dispatch_unhandled_follows (id type : Json) :
    Follows billing style .ignored (dispatch billing style (.unhandled id type)) :=
  .after_crash (ObjectStyle.display_total _) fun _ _ => .exactly rfl rfl

theorem dispatch_invoicePayment_follows {type : Text} (id : Json) (payment : IsInvoicePayment event)
    (route : Routes event action) :
    Follows billing style action
      (dispatch billing style (.invoicePayment id (.text type) (event.dataObject "invoice"))) := by
  cases route with
  | invoicePayment invoice reference customer subscription _ object refers place refersBy =>
    rw [dataObject_eq_object_iff.2 object, refers.eq, refersBy.eq, ← place.subscription?_eq]
    exact handleInvoicePayment_follows _ invoice
  | noInvoice _ noObject =>
    rw [dataObject_eq_null_iff.2 noObject]
    exact .exactly rfl rfl
  | unhandled noPayment => exact absurd payment noPayment
  | subscriptionDeleted _ deletion | noSubscription deletion =>
    rcases payment with payment | payment
    all_goals exact absurd (deletion.symm.trans payment) (by decide)

theorem dispatch_subscriptionDeleted_follows {type : Text} (id : Json)
    (deletion : IsSubscriptionDeleted event) (route : Routes event action) :
    Follows billing style action (dispatch billing style
      (.subscriptionDeleted id (.text type) (event.dataObject "subscription"))) := by
  cases route with
  | subscriptionDeleted subscription _ object =>
    rw [dataObject_eq_object_iff.2 object]
    exact handleDelinquentCustomer_follows subscription
  | noSubscription _ noObject =>
    rw [dataObject_eq_null_iff.2 noObject]
    exact .exactly rfl rfl
  | unhandled _ noDeletion => exact absurd deletion noDeletion
  | invoicePayment _ _ _ _ payment | noInvoice payment =>
    rcases payment with payment | payment
    all_goals exact absurd (deletion.symm.trans payment) (by decide)

theorem dispatch_ofType_follows {type : Text} (id : Json)
    (found : event.at? "type" = some (.text type)) (route : Routes event action) :
    Follows billing style action (dispatch billing style (.ofType event id type)) := by
  unfold BillingEvent.ofType
  split
  · rename_i payment
    refine dispatch_invoicePayment_follows id ?_ route
    simpa [IsInvoicePayment, found, BillingEvent.invoicePaymentTypes, Json.lit] using payment
  · rename_i noPayment
    split
    · rename_i deletion
      refine dispatch_subscriptionDeleted_follows id ?_ route
      rw [IsSubscriptionDeleted, found, deletion]
      rfl
    · rename_i noDeletion
      cases route with
      | unhandled => exact dispatch_unhandled_follows id _
      | invoicePayment _ _ _ _ payment | noInvoice payment =>
        refine absurd ?_ noPayment
        simpa [IsInvoicePayment, found, BillingEvent.invoicePaymentTypes, Json.lit] using payment
      | subscriptionDeleted _ deletion | noSubscription deletion =>
        exact absurd (Json.text.inj (Option.some.inj (found.symm.trans deletion))) noDeletion

theorem act_follows (billing : Billing) (style : ObjectStyle) (route : Routes event action) :
    Follows billing style action (act billing style (.object event)) := by
  refine .after_crash (fun _ => ⟨event, rfl⟩) fun delivery same => ?_
  cases same
  refine .after_crash (BillingEvent.classify_total event) fun sorted ok => ?_
  by_cases text : ∃ type, event.at? "type" = some (.text type)
  · obtain ⟨type, found⟩ := text
    obtain ⟨id, rfl⟩ := BillingEvent.classify_of_text found ok
    exact dispatch_ofType_follows id found route
  · have other := not_exists.1 text
    obtain ⟨id, type, rfl⟩ := BillingEvent.classify_of_other other ok
    cases route with
    | unhandled => exact dispatch_unhandled_follows id type
    | invoicePayment _ _ _ _ payment | noInvoice payment =>
      rcases payment with payment | payment
      all_goals exact absurd payment (other _)
    | subscriptionDeleted _ deletion | noSubscription deletion => exact absurd deletion (other _)

end WebhookService

end Follows

theorem Action.eq_of_observed {billing : Billing} {first second : Action}
    (calls : first.calls = second.calls)
    (outcome : first.outcome billing = second.outcome billing) : first = second := by
  cases first <;> cases second <;> simp_all [Action.calls, Action.outcome]

theorem Routes.unique {event : Members} {first second : Action} (routeFirst : Routes event first)
    (routeSecond : Routes event second) : first = second := by
  -- what the service does about the event is seen, and tells both actions
  let billing : Billing := fun _ => .ok ()
  obtain ⟨calls, outcome⟩ := (WebhookService.act_follows billing .plain routeFirst).of_plain
  obtain ⟨calls', outcome'⟩ := (WebhookService.act_follows billing .plain routeSecond).of_plain
  exact Action.eq_of_observed (calls.symm.trans calls') (outcome.symm.trans outcome')

theorem Routes.forall_iff {events : List Members} {actions : List Action}
    (routes : List.Forall₂ Routes events actions) (others : List Action) :
    List.Forall₂ Routes events others ↔ others = actions := by
  constructor
  · intro routesOthers
    induction routes generalizing others with
    | nil => cases routesOthers; rfl
    | cons route _ ih =>
      cases routesOthers with
      | cons other others => rw [other.unique route, ih _ others]
  · rintro rfl
    exact routes

theorem exists_forall_routes (events : List Members) :
    ∃ actions, List.Forall₂ Routes events actions := by
  induction events with
  | nil => exact ⟨[], .nil⟩
  | cons event events ih =>
    obtain ⟨action, route⟩ := exists_routes event
    obtain ⟨actions, routes⟩ := ih
    exact ⟨action :: actions, .cons route routes⟩

namespace WebhookService

/-- Acts on one event after the other; a failure does not keep the next event from coming. -/
def actAll (collaborator : List BillingCall → Billing) (style : ObjectStyle) :
    List BillingCall → List Json → List (Traced Unit)
  | _, [] => []
  | history, event :: events =>
    let run := act (collaborator history) style event
    run :: actAll collaborator style (history ++ run.calls) events

theorem actAll_eq_runAll (collaborator : List BillingCall → Billing) (history : List BillingCall)
    {events : List Members} {actions : List Action} (routes : List.Forall₂ Routes events actions) :
    (actAll collaborator .plain history (events.map .object)).map
        (fun run => (run.calls, run.outcome)) =
      Action.runAll collaborator history actions := by
  -- the calls so far grow by those of each event, so they are free in the induction
  induction routes generalizing history with
  | nil => rfl
  | cons route routes ih =>
    obtain ⟨calls, outcome⟩ := (act_follows (collaborator history) .plain route).of_plain
    simp only [List.map_cons, actAll, Action.runAll, calls, outcome, ih]

/-- Every sequence of events is routed in exactly one way, and that is what the service does. -/
theorem routing_exact (collaborator : List BillingCall → Billing) (history : List BillingCall)
    (events : List Members) :
    ∃ actions, (∀ others, List.Forall₂ Routes events others ↔ others = actions) ∧
      (actAll collaborator .plain history (events.map .object)).map
          (fun run => (run.calls, run.outcome)) =
        Action.runAll collaborator history actions := by
  obtain ⟨actions, routes⟩ := exists_forall_routes events
  exact ⟨actions, Routes.forall_iff routes, actAll_eq_runAll collaborator history routes⟩

end WebhookService

end Tollgate
