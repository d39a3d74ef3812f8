import Tollgate.Http.Application
import Tollgate.Proofs.Trace

namespace Tollgate

open Traced

theorem Billing.act_leaves (billing : Billing) (call : BillingCall) :
    (billing.act call).Leaves Event.IsRouted := by
  refine Leaves.bind (fun event member => ?_) fun _ => leaves_of_nil rfl
  cases List.mem_singleton.mp member
  trivial

namespace WebhookService

theorem constructEvent_leaves (service : WebhookService) (now : Clock) (payload : Payload)
    (header : Text) : (service.constructEvent now payload header).Leaves Event.IsRouted := by
  unfold constructEvent
  split
  · exact leaves_of_nil rfl
  · exact (leaves_log _ _ _ fun _ => trivial).bind fun _ => leaves_of_nil rfl
  · exact (leaves_log _ _ _ fun _ => trivial).bind fun _ => leaves_of_nil rfl
  · exact leaves_of_nil rfl

section

variable (billing : Billing) (style : ObjectStyle)

theorem handleInvoicePayment_leaves (type invoice : Json) :
    (handleInvoicePayment billing style type invoice).Leaves Event.IsRouted := by
  unfold handleInvoicePayment
  split
  · exact leaves_of_nil rfl
  · refine (leaves_of_nil rfl).bind fun number => (leaves_of_nil rfl).bind fun type => ?_
    exact (leaves_log _ _ _ fun _ => trivial).bind fun _ => billing.act_leaves _
  · exact leaves_of_nil rfl

theorem handleDelinquentCustomer_leaves (subscription : Json) :
    (handleDelinquentCustomer billing style subscription).Leaves Event.IsRouted := by
  unfold handleDelinquentCustomer
  split
  · exact leaves_of_nil rfl
  · refine (leaves_of_nil rfl).bind fun customer => ?_
    exact (leaves_log _ _ _ fun _ => trivial).bind fun _ => billing.act_leaves _
  · exact leaves_of_nil rfl

theorem dispatch_leaves (event : BillingEvent) :
    (dispatch billing style event).Leaves Event.IsRouted := by
  cases event with
  | invoicePayment id type invoice => exact handleInvoicePayment_leaves billing style type invoice
  | subscriptionDeleted id type subscription =>
    exact handleDelinquentCustomer_leaves billing style subscription
  | unhandled id type =>
    exact (leaves_of_nil rfl).bind fun type => leaves_log _ _ _ fun _ => trivial

theorem act_leaves (event : Json) : (act billing style event).Leaves Event.IsRouted :=
  (leaves_of_nil rfl).bind fun _ => (leaves_of_nil rfl).bind (dispatch_leaves billing style)

end

theorem handleDelivery_leaves (service : WebhookService) (billing : Billing) (now : Clock)
    (payload : Payload) (header : Text) :
    (service.handleDelivery billing now payload header).Leaves Event.IsRouted :=
  (constructEvent_leaves service now payload header).bind (act_leaves billing .resource)

end WebhookService

namespace Handler

theorem serve_events (handler : Handler) (request : Request) :
    (handler.serve request).events = (handler request).events := by
  unfold serve
  dsimp only
  split <;> rfl

theorem deliveries_leaves (service : WebhookService) (billing : Option Billing) (now : Clock)
    (request : Request) : (deliveries service billing now request).Leaves Event.IsRouted := by
  unfold deliveries
  split
  · exact leaves_of_nil rfl
  · exact leaves_of_nil rfl
  · exact (service.handleDelivery_leaves _ now _ _).bind fun _ => leaves_of_nil rfl

theorem whoAmI_leaves (request : Request) : (whoAmI jsonAnswer request).Leaves Event.IsRouted :=
  (leaves_of_nil rfl).bind fun _ => (leaves_of_nil rfl).bind fun _ => leaves_of_nil rfl

theorem tellError_leaves {property : Event → Prop} (logged : ∀ record, property (.logged record))
    (request : Request) (code : ErrorCode) : (tellError request code).Leaves property := by
  refine (leaves_of_nil rfl).bind fun path => ?_
  exact (leaves_log _ _ _ logged).bind fun _ => leaves_of_nil rfl

theorem answerTo?_leaves {property : Event → Prop} (logged : ∀ record, property (.logged record))
    (request : Request) (fault : Fault) :
    ((answerTo? request fault).getD (fail fault)).Leaves property := by
  unfold answerTo?
  split
  · exact tellError_leaves logged request _
  · exact tellError_leaves logged request _
  all_goals exact leaves_of_nil rfl

theorem reportErrors_leaves {next : Handler} {request : Request} {property : Event → Prop}
    (logged : ∀ record, property (.logged record)) (inner : (next request).Leaves property) :
    (reportErrors next request).Leaves property :=
  inner.handle (answerTo?_leaves logged request)

end Handler

theorem Router.handle_leaves {routes : List Route} {property : Event → Prop}
    (each : ∀ route ∈ routes, ∀ request, (route.handler request).Leaves property)
    (request : Request) : (handle routes request).Leaves property := by
  unfold handle
  dsimp only
  split
  · rename_i route found
    exact each route (List.mem_filter.mp (List.mem_of_find?_eq_some found)).1 request
  · exact leaves_of_nil rfl
  · split
    · exact (leaves_of_nil rfl).bind fun _ => (leaves_of_nil rfl).bind fun _ => leaves_of_nil rfl
    · exact leaves_of_nil rfl

namespace Application

theorem routes_leaves (app : Application) (now : Clock) (request : Request) :
    (Handler.reportErrors (Router.handle (app.routes now)) request).Leaves Event.IsRouted := by
  refine Handler.reportErrors_leaves (fun _ => trivial) (Router.handle_leaves ?_ request)
  simp only [routes, List.forall_mem_cons, List.not_mem_nil, false_implies, implies_true, and_true]
  refine ⟨fun _ => leaves_of_nil rfl, Handler.whoAmI_leaves, ?_⟩
  exact Handler.deliveries_leaves app.settings.webhookService app.billing now

end Application

end Tollgate
