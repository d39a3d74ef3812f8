import Tollgate.Billing
import Tollgate.Webhook.Event

namespace Tollgate

inductive Action where
  | sync (customer subscription : Option Text)
  | delinquent (subscription : Members)
  | missing
  | ignored

namespace Action

def calls : Action → List BillingCall
  | sync customer subscription => [.syncSubscription customer subscription]
  | delinquent subscription => [.handleDelinquentCustomer subscription]
  | missing | ignored => []

def outcome (billing : Billing) : Action → Except Fault Unit
  | sync customer subscription => billing (.syncSubscription customer subscription)
  | delinquent subscription => billing (.handleDelinquentCustomer subscription)
  | missing => .error (.api .objectMissingError none)
  | ignored => .ok ()

/-- What is seen of actions taken one after the other. The billing service may answer a call by all
the calls before it. -/
def runAll (collaborator : List BillingCall → Billing) :
    List BillingCall → List Action → List (List BillingCall × Except Fault Unit)
  | _, [] => []
  | history, action :: actions =>
    (action.calls, action.outcome (collaborator history)) ::
      runAll collaborator (history ++ action.calls) actions

end Action

/-- The id that a value refers to, if there is a value: a text is an id, an object has one. -/
inductive Refers : Option Json → Option Text → Prop where
  | text (id : Text) : Refers (some (.text id)) (some id)
  | expanded (members : Members) (id : Text) (named : members.at? "id" = some (.text id)) :
    Refers (some (.object members)) (some id)
  | none (value : Option Json) (notText : ∀ id, value ≠ some (.text id))
    (unnamed : ∀ (members : Members) (id : Text), value = some (.object members) →
      members.at? "id" ≠ some (.text id)) : Refers value none

/-- The place of the reference from an invoice to a subscription. -/
inductive SubscriptionOf (invoice : Members) : Option Json → Prop where
  | own (reference : Json) (here : invoice.at? "subscription" = some reference)
    (present : reference ≠ .null) : SubscriptionOf invoice (some reference)
  | parent (parent details : Members)
    (absent : invoice.at? "subscription" = none ∨ invoice.at? "subscription" = some .null)
    (inParent : invoice.at? "parent" = some (.object parent))
    (inDetails : parent.at? "subscription_details" = some (.object details)) :
    SubscriptionOf invoice (details.at? "subscription")
  | nowhere
    (absent : invoice.at? "subscription" = none ∨ invoice.at? "subscription" = some .null)
    (noDetails : ∀ parent details : Members, invoice.at? "parent" = some (.object parent) →
      parent.at? "subscription_details" ≠ some (.object details)) :
    SubscriptionOf invoice none

def HasObject (event : Members) (kind : String) (object : Members) : Prop :=
  ∃ data : Members, event.at? "data" = some (.object data) ∧
    data.at? "object" = some (.object object) ∧ object.at? "object" = some (.lit kind)

def IsInvoicePayment (event : Members) : Prop :=
  event.at? "type" = some (.lit "invoice.payment_succeeded") ∨
    event.at? "type" = some (.lit "invoice.payment_failed")

def IsSubscriptionDeleted (event : Members) : Prop :=
  event.at? "type" = some (.lit "customer.subscription.deleted")

/-- What is to be done about an event. -/
inductive Routes (event : Members) : Action → Prop where
  | invoicePayment (invoice : Members) (reference : Option Json)
    (customer subscription : Option Text) (type : IsInvoicePayment event)
    (object : HasObject event "invoice" invoice)
    (refersCustomer : Refers (invoice.at? "customer") customer)
    (place : SubscriptionOf invoice reference)
    (refersSubscription : Refers reference subscription) :
    Routes event (.sync customer subscription)
  | subscriptionDeleted (subscription : Members) (type : IsSubscriptionDeleted event)
    (object : HasObject event "subscription" subscription) :
    Routes event (.delinquent subscription)
  | noInvoice (type : IsInvoicePayment event)
    (noObject : ∀ invoice, ¬ HasObject event "invoice" invoice) : Routes event .missing
  | noSubscription (type : IsSubscriptionDeleted event)
    (noObject : ∀ subscription, ¬ HasObject event "subscription" subscription) :
    Routes event .missing
  | unhandled (noPayment : ¬ IsInvoicePayment event) (noDeletion : ¬ IsSubscriptionDeleted event) :
    Routes event .ignored

theorem referenceId?_eq_some_iff {value : Json} {id : Text} :
    referenceId? value = some id ↔ value = .text id ∨
      ∃ members : Members, value = .object members ∧ members.at? "id" = some (.text id) := by
  cases value with
  | object members =>
    cases found : Members.at? members "id" with
    | none => simp [referenceId?, found]
    | some value => cases value <;> simp [referenceId?, found, Json.text?]
  | _ => simp [referenceId?]

theorem refers (value : Option Json) : Refers value (value.bind referenceId?) := by
  cases found : value.bind referenceId? with
  | none =>
    refine .none value ?_ ?_
    · rintro id rfl
      cases found
    · rintro members id rfl named
      have same := referenceId?_eq_some_iff.2 (.inr ⟨members, rfl, named⟩)
      exact absurd (same.symm.trans found) nofun
  | some id =>
    obtain ⟨value, rfl, found⟩ := Option.bind_eq_some_iff.1 found
    rcases referenceId?_eq_some_iff.1 found with rfl | ⟨members, rfl, named⟩
    · exact .text id
    · exact .expanded members id named

theorem Refers.eq {value : Option Json} {id : Option Text} (refers : Refers value id) :
    id = value.bind referenceId? := by
  cases refers with
  | text id => rfl
  | expanded members id named =>
    exact (referenceId?_eq_some_iff.2 (.inr ⟨members, rfl, named⟩)).symm
  | none value notText unnamed =>
    cases found : value.bind referenceId? with
    | none => rfl
    | some id =>
      obtain ⟨value, rfl, found⟩ := Option.bind_eq_some_iff.1 found
      rcases referenceId?_eq_some_iff.1 found with rfl | ⟨members, rfl, named⟩
      · exact absurd rfl (notText id)
      · exact absurd named (unnamed members id rfl)

theorem exists_subscriptionOf (invoice : Members) :
    ∃ reference, SubscriptionOf invoice reference := by
  by_cases absent : invoice.at? "subscription" = none ∨ invoice.at? "subscription" = some .null
  · by_cases details : ∃ parent details : Members, invoice.at? "parent" = some (.object parent) ∧
        parent.at? "subscription_details" = some (.object details)
    · obtain ⟨parent, details, inParent, inDetails⟩ := details
      exact ⟨_, .parent parent details absent inParent inDetails⟩
    · exact ⟨none, .nowhere absent fun parent found inParent inDetails =>
        details ⟨parent, found, inParent, inDetails⟩⟩
  · cases here : invoice.at? "subscription" with
    | none => exact absurd (.inl here) absent
    | some reference => exact ⟨_, .own reference here fun null => absent (.inr (null ▸ here))⟩

theorem Json.at?_eq_some_iff {value found : Json} {key : String} :
    value.at? key = some found ↔
      ∃ members : Members, value = .object members ∧ members.at? key = some found := by
  cases value <;> simp [Json.at?]

theorem Invoice.subscriptionReference_of_absent {invoice : Members}
    (absent : invoice.at? "subscription" = none ∨ invoice.at? "subscription" = some .null) :
    subscriptionReference invoice =
      (((invoice.at? "parent").bind (·.at? "subscription_details")).bind
        (·.at? "subscription")).getD .null := by
  rcases absent with absent | absent
  all_goals simp only [subscriptionReference, absent]

theorem SubscriptionOf.subscription?_eq {invoice : Members} {reference : Option Json}
    (place : SubscriptionOf invoice reference) :
    Invoice.subscription? invoice = reference.bind referenceId? := by
  unfold Invoice.subscription?
  cases place with
  | own reference here present =>
    have same : Invoice.subscriptionReference invoice = reference := by
      unfold Invoice.subscriptionReference
      rw [here]
      split
      · contradiction
      · rename_i null
        exact absurd (Option.some.inj null) present
      · rename_i found
        exact (Option.some.inj found).symm
    rw [same]
    rfl
  | parent parent details absent inParent inDetails =>
    rw [Invoice.subscriptionReference_of_absent absent, inParent]
    simp only [Option.bind_some, Json.at?, inDetails]
    cases details.at? "subscription" <;> rfl
  | nowhere absent noDetails =>
    rw [Invoice.subscriptionReference_of_absent absent]
    cases found : ((invoice.at? "parent").bind (·.at? "subscription_details")).bind
        (·.at? "subscription") with
    | none => rfl
    | some reference =>
      obtain ⟨details, found, inDetails⟩ := Option.bind_eq_some_iff.1 found
      obtain ⟨parent, inParent, found⟩ := Option.bind_eq_some_iff.1 found
      obtain ⟨members, rfl, named⟩ := Json.at?_eq_some_iff.1 found
      obtain ⟨details, rfl, -⟩ := Json.at?_eq_some_iff.1 inDetails
      exact absurd named (noDetails members details inParent)

theorem dataObject_eq_object_iff {event object : Members} {kind : String} :
    event.dataObject kind = .object object ↔ HasObject event kind object := by
  unfold Members.dataObject HasObject
  constructor
  · intro found
    split at found
    · rename_i members inData
      obtain ⟨data, here, inData⟩ := Option.bind_eq_some_iff.1 inData
      obtain ⟨data, rfl, inData⟩ := Json.at?_eq_some_iff.1 inData
      split at found
      · rename_i isKind
        cases found
        exact ⟨data, here, inData, eq_of_beq isKind⟩
      · cases found
    · cases found
  · rintro ⟨data, here, inData, isKind⟩
    simp [here, Json.at?, inData, isKind]

theorem dataObject_eq_null_iff {event : Members} {kind : String} :
    event.dataObject kind = .null ↔ ∀ object, ¬ HasObject event kind object := by
  constructor
  · intro null object found
    exact absurd (null.symm.trans (dataObject_eq_object_iff.2 found)) nofun
  · intro noObject
    cases found : event.dataObject kind with
    | null => rfl
    | object members => exact absurd (dataObject_eq_object_iff.1 found) (noObject members)
    | _ =>
      unfold Members.dataObject at found
      split at found
      · split at found <;> cases found
      · cases found

theorem exists_routes (event : Members) : ∃ action, Routes event action := by
  by_cases payment : IsInvoicePayment event
  · by_cases object : ∃ invoice, HasObject event "invoice" invoice
    · obtain ⟨invoice, object⟩ := object
      obtain ⟨reference, place⟩ := exists_subscriptionOf invoice
      exact ⟨_, .invoicePayment invoice reference _ _ payment object (refers _) place (refers _)⟩
    · exact ⟨_, .noInvoice payment (not_exists.1 object)⟩
  · by_cases deletion : IsSubscriptionDeleted event
    · by_cases object : ∃ subscription, HasObject event "subscription" subscription
      · obtain ⟨subscription, object⟩ := object
        exact ⟨_, .subscriptionDeleted subscription deletion object⟩
      · exact ⟨_, .noSubscription deletion (not_exists.1 object)⟩
    · exact ⟨_, .unhandled payment deletion⟩

end Tollgate
