import Tollgate.Webhook.Event
import Tollgate.Webhook.Signature
import Tollgate.Json.Reader
import Tollgate.Trace

namespace Tollgate

inductive Payload where
  | text (content : Text)
  | bytes (content : Bytes)

structure WebhookService where
  secret : Text
  tolerance : Option Int := some 300

namespace WebhookService

inductive Failure where
  | signature (flaw : SignatureFlaw)
  | payload (flaw : PayloadFlaw)
  | crash (crash : Crash)
deriving DecidableEq

def payloadText : Payload → Except Failure Text
  | .text content => .ok content
  | .bytes content => ((Utf8.decode content).map .ok).getD (.error (.payload .undecodable))

def encoded (s : Text) : Except Failure Bytes :=
  ((Utf8.encode s).map .ok).getD (.error (.payload .unencodable))

def verify (service : WebhookService) (now : Clock) (payload header : Text) :
    Except Failure Unit := do
  let some parsed := Webhook.SignatureHeader.parse? header | throw (.signature .unreadableHeader)
  if parsed.signatures.isEmpty then throw (.signature .noSignature)
  let key ← encoded service.secret
  let bytes ← encoded payload
  let expected := Webhook.signatureOf key parsed.timestamp bytes
  let found ← (Webhook.findSignature expected parsed.signatures).mapError .payload
  if !found then throw (.signature .noMatch)
  match Webhook.isStale now service.tolerance parsed.timestamp with
  | none => throw (.crash .outOfRange)
  | some true => throw (.signature (.stale parsed.timestamp))
  | some false => return ()

/-- The event in a payload: an object whose members are readable. The event itself is of no kind
that has a place of its own for currency options. -/
def readEvent (payload : Text) : Except Failure Json :=
  match Json.read payload with
  | .error .malformed => .error (.payload .malformed)
  | .error .tooManyDigits => .error (.payload .tooManyDigits)
  | .ok (.object members) =>
    if Resource.areReadableMembers .ordinary [] members then .ok (.object members)
    else .error (.payload .notAnObject)
  | .ok _ => .error (.payload .notAnObject)

def openDelivery (service : WebhookService) (now : Clock) (payload : Payload) (header : Text) :
    Except Failure Json := do
  let content ← payloadText payload
  service.verify now content header
  readEvent content

def warn (message : String) : Traced Unit := Traced.log .warning .webhook (Text.lit message)

def constructEvent (service : WebhookService) (now : Clock) (payload : Payload) (header : Text) :
    Traced Json :=
  match service.openDelivery now payload header with
  | .ok event => pure event
  | .error (.signature flaw) => do
    warn "Stripe signature verification failed"
    Traced.rejectFor .signatureVerificationError (.signature flaw)
  | .error (.payload flaw) => do
    warn "Stripe event payload could not be deserialized"
    Traced.rejectFor .deserializationError (.payload flaw)
  | .error (.crash crash) => Traced.crash crash

def handleInvoicePayment (billing : Billing) (style : ObjectStyle) (type : Json) :
    Json → Traced Unit
  | .null => Traced.reject .objectMissingError
  | .object invoice => do
    let number ← Traced.ofCrash (style.display ((Members.at? invoice "number").getD .null))
    let type ← Traced.ofCrash (style.display type)
    Traced.log .info .webhook <|
      Text.lit "Handling invoice payment: " ++ number ++ Text.lit " (" ++ type ++ Text.lit ")"
    billing.act (.syncSubscription (Invoice.customer? invoice) (Invoice.subscription? invoice))
  | _ => Traced.crash .noMembers

def handleDelinquentCustomer (billing : Billing) (style : ObjectStyle) : Json → Traced Unit
  | .null => Traced.reject .objectMissingError
  | .object subscription => do
    let customer ←
      Traced.ofCrash (style.display ((Members.at? subscription "customer").getD .null))
    Traced.log .info .webhook (Text.lit "Handling delinquent customer: " ++ customer)
    billing.act (.handleDelinquentCustomer subscription)
  | _ => Traced.crash .noMembers

def dispatch (billing : Billing) (style : ObjectStyle) : BillingEvent → Traced Unit
  | .invoicePayment _ type invoice => handleInvoicePayment billing style type invoice
  | .subscriptionDeleted _ _ subscription => handleDelinquentCustomer billing style subscription
  | .unhandled _ type => do
    let type ← Traced.ofCrash (style.display type)
    Traced.log .debug .webhook (Text.lit "No action for stripe event " ++ type)

def act (billing : Billing) (style : ObjectStyle) (event : Json) : Traced Unit := do
  let delivery ← Traced.ofCrash event.membersOf
  dispatch billing style (← Traced.ofCrash (BillingEvent.classify style delivery))

/-- Checks a delivery and acts on its event. A deleted subscription is where delinquent accounts
are handled: it comes once every retry of a payment has failed. -/
def handleDelivery (service : WebhookService) (billing : Billing) (now : Clock) (payload : Payload)
    (header : Text) : Traced Unit := do
  act billing .resource (← service.constructEvent now payload header)

end WebhookService

end Tollgate
