import Tollgate.Webhook.Resource.Display

namespace Tollgate

/-- What the objects of an event are taken for. -/
inductive ObjectStyle where
  | plain
  | resource

namespace ObjectStyle

def isPresent (style : ObjectStyle) (value : Json) : Except Crash Bool :=
  match style with
  | plain => .ok value.isTruthy
  | resource => Resource.isPresent value

def shown (style : ObjectStyle) (value : Json) : Except Crash Text :=
  match style with
  | plain => .ok value.shown
  | resource => Resource.shown value

def display (style : ObjectStyle) (value : Json) : Except Crash Text :=
  match style with
  | plain => .ok value.display
  | resource => Resource.display value

end ObjectStyle

/-- An event by what is done about it. Its object is null if the delivery holds none of the right
kind. -/
inductive BillingEvent where
  | invoicePayment (id type invoice : Json)
  | subscriptionDeleted (id type subscription : Json)
  | unhandled (id type : Json)
deriving DecidableEq

namespace BillingEvent

def invoicePaymentTypes : List Text :=
  [Text.lit "invoice.payment_succeeded", Text.lit "invoice.payment_failed"]

def subscriptionDeletedType : Text := Text.lit "customer.subscription.deleted"

end BillingEvent

namespace Json

def at? (value : Json) (key : String) : Option Json :=
  match value with
  | .object members => Members.at? members key
  | _ => none

def membersOf : Json → Except Crash Members
  | .object members => .ok members
  | _ => .error .noMembers

end Json

def Members.dataObject (delivery : Members) (kind : String) : Json :=
  match (delivery.at? "data").bind (·.at? "object") with
  | some (.object members) =>
    if Members.at? members "object" == some (.lit kind) then .object members else .null
  | _ => .null

namespace BillingEvent

/-- The id, where an empty text stands for one that is not there. -/
def idOf (style : ObjectStyle) (delivery : Members) : Except Crash Json := do
  let id := (delivery.at? "id").getD .null
  return if ← style.isPresent id then id else .text []

def ofType (delivery : Members) (id : Json) (type : Text) : BillingEvent :=
  if type ∈ invoicePaymentTypes then
    .invoicePayment id (.text type) (delivery.dataObject "invoice")
  else if type = subscriptionDeletedType then
    .subscriptionDeleted id (.text type) (delivery.dataObject "subscription")
  else .unhandled id (.text type)

/-- Sorts a delivery by its type. A type that is no text is never acted on. -/
def classify (style : ObjectStyle) (delivery : Members) : Except Crash BillingEvent := do
  let id ← idOf style delivery
  match delivery.at? "type" with
  | some (.text type) => return ofType delivery id type
  | type =>
    let id ← style.display id
    let type ← style.shown (type.getD .null)
    return .unhandled (.text id) (.text type)

end BillingEvent

def referenceId? : Json → Option Text
  | .text id => some id
  | .object members => (Members.at? members "id").bind Json.text?
  | _ => none

namespace Invoice

def customer? (invoice : Members) : Option Text := (invoice.at? "customer").bind referenceId?

/-- The reference to a subscription: the invoice's own, or the one in the details of its parent. -/
def subscriptionReference (invoice : Members) : Json :=
  match invoice.at? "subscription" with
  | none | some .null =>
    (((invoice.at? "parent").bind (·.at? "subscription_details")).bind (·.at? "subscription")).getD
      .null
  | some reference => reference

def subscription? (invoice : Members) : Option Text :=
  referenceId? (subscriptionReference invoice)

end Invoice

end Tollgate
