import Mathlib.Logic.Relation
import Tollgate.Proofs.Webhook.Routing

namespace Tollgate

/-- The objects have the same members but for those with these keys. -/
def Members.AgreeApart (keys : List String) (first second : Members) : Prop :=
  ∀ key, key ∉ keys.map Text.lit → first.get? key = second.get? key

theorem Members.get?_filter {key : Text} {keys : List Text} (other : key ∉ keys)
    (members : Members) :
    Members.get? key (members.filter fun member => !keys.contains member.1) = members.get? key := by
  unfold Members.get?
  induction members with
  | nil => rfl
  | cons member members ih =>
    cases listed : keys.contains member.1 with
    | true =>
      have elsewhere : (key == member.1) = false := by
        apply beq_false_of_ne
        intro same
        exact other (same ▸ List.contains_iff_mem.mp listed)
      rw [List.filter_cons_of_neg (by simp only [listed]; decide), ih, List.lookup_cons, elsewhere]
    | false =>
      rw [List.filter_cons_of_pos (by simp only [listed]; decide), List.lookup_cons,
        List.lookup_cons, ih]

namespace Members.AgreeApart

variable {keys others : List String} {first second third : Members}

theorem of_filter (same : (first.filter fun member => !(keys.map Text.lit).contains member.1) =
    second.filter fun member => !(keys.map Text.lit).contains member.1) :
    AgreeApart keys first second := by
  intro key other
  rw [← get?_filter other first, same, get?_filter other second]

theorem at? (agree : AgreeApart keys first second) (key : String)
    (other : Text.lit key ∉ keys.map Text.lit) : first.at? key = second.at? key :=
  agree (Text.lit key) other

theorem mono (agree : AgreeApart keys first second) (more : keys ⊆ others) :
    AgreeApart others first second := by
  intro key other
  apply agree
  intro member
  exact other (List.map_subset Text.lit more member)

theorem symm (agree : AgreeApart keys first second) : AgreeApart keys second first :=
  fun key other => (agree key other).symm

theorem trans (agree : AgreeApart keys first second) (also : AgreeApart keys second third) :
    AgreeApart keys first third :=
  fun key other => (agree key other).trans (also key other)

end Members.AgreeApart

/-- The spellings of a reference to this id. -/
inductive SpellsReference (id : Text) : Json → Prop where
  | text : SpellsReference id (.text id)
  | expanded (members : Members) (named : members.at? "id" = some (.text id)) :
    SpellsReference id (.object members)

theorem SpellsReference.referenceId?_eq {id : Text} {reference : Json}
    (spells : SpellsReference id reference) : referenceId? reference = some id := by
  rw [referenceId?_eq_some_iff]
  cases spells with
  | text => exact .inl rfl
  | expanded members named => exact .inr ⟨members, rfl, named⟩

theorem SpellsReference.ne_null {id : Text} {reference : Json}
    (spells : SpellsReference id reference) : reference ≠ .null := by
  cases spells <;> exact nofun

namespace Invoice

def HasNoOwn (invoice : Members) : Prop :=
  invoice.at? "subscription" = none ∨ invoice.at? "subscription" = some .null

def ParentRefers (invoice : Members) (reference : Json) : Prop :=
  ∃ parent details : Members, invoice.at? "parent" = some (.object parent) ∧
    parent.at? "subscription_details" = some (.object details) ∧
    details.at? "subscription" = some reference

inductive Place where
  | customer
  | subscription
  | parent

namespace Place

def key : Place → String
  | customer => "customer"
  | subscription => "subscription"
  | parent => "parent"

def Holds (invoice : Members) (reference : Json) : Place → Prop
  | customer => invoice.at? "customer" = some reference
  | subscription => invoice.at? "subscription" = some reference
  | parent => ParentRefers invoice reference

end Place

/-- One change to the spelling of an invoice. What else stands in a parent or in an object that is
put for a text is arbitrary. -/
inductive Respells (before after : Members) : Prop where
  | respelt (place : Place) (id : Text) (first second : Json) (written : place.Holds before first)
    (rewritten : place.Holds after second) (spells : SpellsReference id first)
    (respells : SpellsReference id second) (elsewhere : before.AgreeApart [place.key] after)
  | moved (reference : Json) (written : before.at? "subscription" = some reference)
    (present : reference ≠ .null) (removed : HasNoOwn after)
    (rewritten : ParentRefers after reference)
    (elsewhere : before.AgreeApart ["subscription", "parent"] after)
  /-- Beside a reference of the invoice's own, the parent may say anything. -/
  | shadowed (reference : Json) (written : before.at? "subscription" = some reference)
    (present : reference ≠ .null) (elsewhere : before.AgreeApart ["parent"] after)

/-- The invoices refer to the same customer and subscription, and agree in all other members. -/
structure SameReferences (before after : Members) : Prop where
  customer : customer? before = customer? after
  subscription : subscription? before = subscription? after
  elsewhere : before.AgreeApart ["customer", "subscription", "parent"] after

variable {before after invoice : Members} {reference : Json}

theorem subscription?_of_own (written : invoice.at? "subscription" = some reference)
    (present : reference ≠ .null) : subscription? invoice = referenceId? reference :=
  (SubscriptionOf.own reference written present).subscription?_eq

theorem subscription?_of_parent (absent : HasNoOwn invoice)
    (refers : ParentRefers invoice reference) :
    subscription? invoice = referenceId? reference := by
  obtain ⟨parent, details, inParent, inDetails, here⟩ := refers
  rw [(SubscriptionOf.parent parent details absent inParent inDetails).subscription?_eq, here]
  rfl

theorem hasNoOwn_or_own (invoice : Members) :
    HasNoOwn invoice ∨
      ∃ reference, invoice.at? "subscription" = some reference ∧ reference ≠ .null := by
  cases written : invoice.at? "subscription" with
  | none => exact .inl (.inl written)
  | some reference =>
    by_cases null : reference = .null
    · subst null
      exact .inl (.inr written)
    · exact .inr ⟨reference, rfl, null⟩

theorem customer?_congr (same : before.at? "customer" = after.at? "customer") :
    customer? before = customer? after := by
  unfold customer?
  rw [same]

theorem subscription?_congr (own : before.at? "subscription" = after.at? "subscription")
    (parent : before.at? "parent" = after.at? "parent") :
    subscription? before = subscription? after := by
  unfold subscription? subscriptionReference
  rw [own, parent]

theorem subscription?_inParent {first second : Json}
    (own : before.at? "subscription" = after.at? "subscription")
    (written : ParentRefers before first) (rewritten : ParentRefers after second)
    (ids : referenceId? first = referenceId? second) :
    subscription? before = subscription? after := by
  rcases hasNoOwn_or_own before with absent | ⟨reference, here, present⟩
  · have alsoAbsent : HasNoOwn after := by
      unfold HasNoOwn at absent ⊢
      rwa [← own]
    rw [subscription?_of_parent absent written, subscription?_of_parent alsoAbsent rewritten, ids]
  · have alsoHere : after.at? "subscription" = some reference := own.symm.trans here
    rw [subscription?_of_own here present, subscription?_of_own alsoHere present]

theorem sameReferences_of_respelt {place : Place} {id : Text} {first second : Json}
    (written : place.Holds before first) (rewritten : place.Holds after second)
    (spells : SpellsReference id first) (respells : SpellsReference id second)
    (elsewhere : before.AgreeApart [place.key] after) : SameReferences before after := by
  have ids : referenceId? first = referenceId? second :=
    spells.referenceId?_eq.trans respells.referenceId?_eq.symm
  cases place with
  | customer =>
    have named : customer? before = customer? after := by
      change before.at? "customer" = some first at written
      change after.at? "customer" = some second at rewritten
      unfold customer?
      rw [written, rewritten, Option.bind_some, Option.bind_some, ids]
    have subscribed := subscription?_congr (elsewhere.at? "subscription" (by decide))
      (elsewhere.at? "parent" (by decide))
    exact ⟨named, subscribed, elsewhere.mono (by decide)⟩
  | subscription =>
    have named := customer?_congr (elsewhere.at? "customer" (by decide))
    have subscribed : subscription? before = subscription? after := by
      rw [subscription?_of_own written spells.ne_null,
        subscription?_of_own rewritten respells.ne_null, ids]
    exact ⟨named, subscribed, elsewhere.mono (by decide)⟩
  | parent =>
    have named := customer?_congr (elsewhere.at? "customer" (by decide))
    have own := elsewhere.at? "subscription" (by decide)
    have subscribed := subscription?_inParent own written rewritten ids
    exact ⟨named, subscribed, elsewhere.mono (by decide)⟩

theorem Respells.sameReferences (respells : Respells before after) :
    SameReferences before after := by
  cases respells with
  | respelt place id first second written rewritten spells respells elsewhere =>
    exact sameReferences_of_respelt written rewritten spells respells elsewhere
  | moved reference written present removed rewritten elsewhere =>
    have named := customer?_congr (elsewhere.at? "customer" (by decide))
    have subscribed : subscription? before = subscription? after := by
      rw [subscription?_of_own written present, subscription?_of_parent removed rewritten]
    exact ⟨named, subscribed, elsewhere.mono (by decide)⟩
  | shadowed reference written present elsewhere =>
    have named := customer?_congr (elsewhere.at? "customer" (by decide))
    have alsoWritten : after.at? "subscription" = some reference := by
      rw [← elsewhere.at? "subscription" (by decide), written]
    have subscribed : subscription? before = subscription? after := by
      rw [subscription?_of_own written present, subscription?_of_own alsoWritten present]
    exact ⟨named, subscribed, elsewhere.mono (by decide)⟩

theorem sameReferences_of_eqvGen (respelt : Relation.EqvGen Respells before after) :
    SameReferences before after := by
  induction respelt with
  | rel _ _ step => exact step.sameReferences
  | refl _ => exact ⟨rfl, rfl, fun _ _ => rfl⟩
  | symm _ _ _ ih => exact ⟨ih.customer.symm, ih.subscription.symm, ih.elsewhere.symm⟩
  | trans _ _ _ _ _ first second =>
    exact ⟨first.customer.trans second.customer, first.subscription.trans second.subscription,
      first.elsewhere.trans second.elsewhere⟩

end Invoice

namespace WebhookService

variable {billing : Billing} {style : ObjectStyle} {event other invoice another : Members}

theorem handleInvoicePayment_congr (type : Json)
    (same : Invoice.SameReferences invoice another) :
    handleInvoicePayment billing style type (.object invoice) =
      handleInvoicePayment billing style type (.object another) := by
  have number : invoice.at? "number" = another.at? "number" :=
    same.elsewhere.at? "number" (by decide)
  simp only [handleInvoicePayment, number, same.customer, same.subscription]

theorem classify_of_payment {type : Text} (given : event.at? "type" = some (.text type))
    (payment : type ∈ BillingEvent.invoicePaymentTypes)
    (object : HasObject event "invoice" invoice) :
    BillingEvent.classify style event = (BillingEvent.idOf style event).map
      fun id => .invoicePayment id (.text type) (.object invoice) := by
  have sorted (id : Json) :
      BillingEvent.ofType event id type = .invoicePayment id (.text type) (.object invoice) := by
    unfold BillingEvent.ofType
    rw [if_pos payment, dataObject_eq_object_iff.mpr object]
  unfold BillingEvent.classify
  rw [given]
  simp only [sorted]
  cases BillingEvent.idOf style event <;> rfl

theorem exists_paymentType (payment : IsInvoicePayment event) :
    ∃ type, event.at? "type" = some (.text type) ∧ type ∈ BillingEvent.invoicePaymentTypes := by
  rcases payment with succeeded | failed
  · exact ⟨_, succeeded, .head _⟩
  · exact ⟨_, failed, .tail _ (.head _)⟩

theorem act_of_payment {type : Text} (given : event.at? "type" = some (.text type))
    (payment : type ∈ BillingEvent.invoicePaymentTypes)
    (object : HasObject event "invoice" invoice) :
    act billing style (.object event) = (Traced.ofCrash (BillingEvent.idOf style event) >>= fun _ =>
      handleInvoicePayment billing style (.text type) (.object invoice)) := by
  change Traced.ofCrash (BillingEvent.classify style event) >>= dispatch billing style = _
  rw [classify_of_payment given payment object]
  cases BillingEvent.idOf style event <;> rfl

theorem act_congr (payment : IsInvoicePayment event) (elsewhere : event.AgreeApart ["data"] other)
    (object : HasObject event "invoice" invoice) (anotherObject : HasObject other "invoice" another)
    (same : Invoice.SameReferences invoice another) :
    act billing style (.object event) = act billing style (.object other) := by
  obtain ⟨type, given, member⟩ := exists_paymentType payment
  have alsoGiven : other.at? "type" = some (.text type) := by
    rw [← elsewhere.at? "type" (by decide), given]
  have id : BillingEvent.idOf style event = BillingEvent.idOf style other := by
    unfold BillingEvent.idOf
    rw [elsewhere.at? "id" (by decide)]
  rw [act_of_payment given member object, act_of_payment alsoGiven member anotherObject, id,
    handleInvoicePayment_congr (.text type) same]

theorem act_payment_follows (payment : IsInvoicePayment event)
    (object : HasObject event "invoice" invoice) :
    Follows billing style (.sync (Invoice.customer? invoice) (Invoice.subscription? invoice))
      (act billing style (.object event)) := by
  obtain ⟨reference, place⟩ := exists_subscriptionOf invoice
  apply act_follows
  apply Routes.invoicePayment invoice reference _ _ payment object (refers _) place
  rw [place.subscription?_eq]
  exact refers reference

/-- Billing is told of the customer and the subscription of a payment, in whichever way the invoice
spells its references to them. -/
theorem respelling_unseen (billing : Billing) (style : ObjectStyle)
    (event other invoice another : Members) (payment : IsInvoicePayment event)
    (elsewhere : event.AgreeApart ["data"] other) (object : HasObject event "invoice" invoice)
    (anotherObject : HasObject other "invoice" another)
    (respelt : Relation.EqvGen Invoice.Respells invoice another) :
    Follows billing style (.sync (Invoice.customer? invoice) (Invoice.subscription? invoice))
        (act billing style (.object event)) ∧
      act billing style (.object other) = act billing style (.object event) := by
  have same := Invoice.sameReferences_of_eqvGen respelt
  exact ⟨act_payment_follows payment object,
    (act_congr payment elsewhere object anotherObject same).symm⟩

def invoiceOf (customer : Json) (references : Members) : Members :=
  [(Text.lit "object", .lit "invoice"), (Text.lit "number", .lit "MECO-0001"),
    (Text.lit "customer", customer)] ++ references

def parentOf (subscription : Json) : Members :=
  [(Text.lit "subscription", .null), (Text.lit "parent", .object
    [(Text.lit "type", .lit "subscription_details"), (Text.lit "subscription_details", .object
      [(Text.lit "metadata", .null), (Text.lit "subscription", subscription)])])]

def paymentOf (invoice : Members) : Members :=
  [(Text.lit "id", .lit "evt_1"), (Text.lit "type", .lit "invoice.payment_failed"),
    (Text.lit "data", .object [(Text.lit "object", .object invoice)])]

def expandedCustomer : Members :=
  [(Text.lit "name", .lit "Ada"), (Text.lit "id", .lit "cus_1")]

def expandedSubscription : Members :=
  [(Text.lit "id", .lit "sub_1"), (Text.lit "customer", .lit "cus_2")]

def writtenInvoice : Members :=
  invoiceOf (.lit "cus_1") [(Text.lit "subscription", .lit "sub_1")]

def respeltInvoice : Members :=
  invoiceOf (.object expandedCustomer) (parentOf (.object expandedSubscription))

theorem writtenInvoice_respelt :
    Relation.EqvGen Invoice.Respells writtenInvoice respeltInvoice := by
  have details (customer subscription : Json) :
      Invoice.ParentRefers (invoiceOf customer (parentOf subscription)) subscription :=
    ⟨_, _, rfl, rfl, rfl⟩
  have customer : SpellsReference (Text.lit "cus_1") (.object expandedCustomer) := .expanded _ rfl
  have subscription : SpellsReference (Text.lit "sub_1") (.object expandedSubscription) :=
    .expanded _ rfl
  have moved : Invoice.Respells writtenInvoice
      (invoiceOf (.lit "cus_1") (parentOf (.lit "sub_1"))) :=
    .moved (.lit "sub_1") rfl nofun (.inr rfl) (details _ _) (.of_filter rfl)
  have expanded : Invoice.Respells (invoiceOf (.lit "cus_1") (parentOf (.lit "sub_1")))
      (invoiceOf (.lit "cus_1") (parentOf (.object expandedSubscription))) :=
    .respelt .parent (Text.lit "sub_1") (.lit "sub_1") (.object expandedSubscription)
      (details _ _) (details _ _) .text subscription (.of_filter rfl)
  have customerExpanded : Invoice.Respells
      (invoiceOf (.lit "cus_1") (parentOf (.object expandedSubscription))) respeltInvoice :=
    .respelt .customer (Text.lit "cus_1") (.lit "cus_1") (.object expandedCustomer) rfl rfl .text
      customer (.of_filter rfl)
  exact (Relation.EqvGen.rel _ _ moved).trans _ _ _ <|
    (Relation.EqvGen.rel _ _ expanded).trans _ _ _ (.rel _ _ customerExpanded)

theorem respeltInvoice_unseen :
    IsInvoicePayment (paymentOf writtenInvoice) ∧
      (paymentOf writtenInvoice).AgreeApart ["data"] (paymentOf respeltInvoice) ∧
      HasObject (paymentOf writtenInvoice) "invoice" writtenInvoice ∧
      HasObject (paymentOf respeltInvoice) "invoice" respeltInvoice ∧
      Relation.EqvGen Invoice.Respells writtenInvoice respeltInvoice ∧
      (act (fun _ => .ok ()) .plain (.object (paymentOf respeltInvoice))).calls =
        [.syncSubscription (some (Text.lit "cus_1")) (some (Text.lit "sub_1"))] := by
  have payment : IsInvoicePayment (paymentOf writtenInvoice) := .inr rfl
  have elsewhere : (paymentOf writtenInvoice).AgreeApart ["data"] (paymentOf respeltInvoice) :=
    .of_filter rfl
  have object (invoice : Members) (kind : invoice.at? "object" = some (.lit "invoice")) :
      HasObject (paymentOf invoice) "invoice" invoice := ⟨_, rfl, rfl, kind⟩
  have written := object writtenInvoice rfl
  have respelt := object respeltInvoice rfl
  obtain ⟨follows, same⟩ := respelling_unseen (fun _ => .ok ()) .plain (paymentOf writtenInvoice)
    (paymentOf respeltInvoice) writtenInvoice respeltInvoice payment elsewhere written respelt
    writtenInvoice_respelt
  refine ⟨payment, elsewhere, written, respelt, writtenInvoice_respelt, ?_⟩
  rw [same]
  exact follows.of_plain.1

end WebhookService

end Tollgate
