import Tollgate.Proofs.Webhook.Routing

namespace Tollgate

def Json.IsText (value : Json) : Prop := ∃ text, value = .text text

theorem Json.isText_text (text : Text) : IsText (.text text) := ⟨text, rfl⟩

/-- The object of a kind that a delivery holds, or null if it holds none. -/
inductive Members.Yields (delivery : Members) (kind : String) : Json → Prop where
  | nothing (none : ∀ object, ¬ HasObject delivery kind object) : Yields delivery kind .null
  | object (members : Members) (held : HasObject delivery kind members) :
    Yields delivery kind (.object members)

theorem Members.yields_dataObject (delivery : Members) (kind : String) :
    delivery.Yields kind (delivery.dataObject kind) := by
  by_cases held : ∃ object, HasObject delivery kind object
  · obtain ⟨object, held⟩ := held
    rw [dataObject_eq_object_iff.2 held]
    exact .object object held
  · have none := not_exists.1 held
    rw [dataObject_eq_null_iff.2 none]
    exact .nothing none

namespace BillingEvent

def id : BillingEvent → Json
  | invoicePayment id _ _ | subscriptionDeleted id _ _ | unhandled id _ => id

def type : BillingEvent → Json
  | invoicePayment _ type _ | subscriptionDeleted _ type _ | unhandled _ type => type

/-- The event is what the delivery says, whatever its id is. -/
structure Describes (event : BillingEvent) (delivery : Members) : Prop where
  keepsId : ∀ id, delivery.at? "id" = some (.text id) → event.id = .text id
  typed : event.type.IsText
  keepsType : ∀ type, delivery.at? "type" = some (.text type) → event.type = .text type
  payment : ∀ id type invoice, event = .invoicePayment id type invoice →
    IsInvoicePayment delivery ∧ delivery.Yields "invoice" invoice
  deletion : ∀ id type subscription, event = .subscriptionDeleted id type subscription →
    IsSubscriptionDeleted delivery ∧ delivery.Yields "subscription" subscription

/-- Every field has the type that it is declared with: texts, and an object or null. -/
def IsWellTyped : BillingEvent → Prop
  | invoicePayment id type object | subscriptionDeleted id type object =>
    id.IsText ∧ type.IsText ∧ (object = .null ∨ ∃ members, object = .object members)
  | unhandled id type => id.IsText ∧ type.IsText

/-- An id that is kept although it is no text: the type of the delivery is a text, and the id is
neither empty nor a text. -/
def KeepsForeignId (delivery : Members) : Prop :=
  (∃ type, delivery.at? "type" = some (.text type)) ∧
    ∃ id, delivery.at? "id" = some id ∧ id.isTruthy = true ∧ ¬ id.IsText

def presentId (delivery : Members) : Json :=
  let id := (delivery.at? "id").getD .null
  if id.isTruthy then id else .text []

section

variable {delivery : Members} {event : BillingEvent}

theorem presentId_of_text {id : Text} (here : delivery.at? "id" = some (.text id)) :
    presentId delivery = .text id := by
  unfold presentId
  rw [here]
  cases id <;> rfl

theorem presentId_isText_iff :
    (presentId delivery).IsText ↔
      ¬ ∃ id, delivery.at? "id" = some id ∧ id.isTruthy = true ∧ ¬ id.IsText := by
  unfold presentId
  cases here : delivery.at? "id" with
  | none => simp [Json.isTruthy, Json.isText_text]
  | some id =>
    by_cases truthy : id.isTruthy = true
    · simp [truthy]
    · simp [truthy, Json.isText_text]

theorem classify_plain_of_text {type : Text} (found : delivery.at? "type" = some (.text type)) :
    classify .plain delivery = .ok (ofType delivery (presentId delivery) type) := by
  unfold classify
  rw [found]
  rfl

theorem classify_plain_of_other (other : ∀ type, delivery.at? "type" ≠ some (.text type)) :
    ∃ type, classify .plain delivery =
      .ok (.unhandled (.text (presentId delivery).display) (.text type)) := by
  cases found : delivery.at? "type" with
  | none =>
    unfold classify
    rw [found]
    exact ⟨_, rfl⟩
  | some value =>
    cases value with
    | text type => exact absurd found (other type)
    | _ =>
      unfold classify
      rw [found]
      exact ⟨_, rfl⟩

theorem ofType_cases {type : Text} (found : delivery.at? "type" = some (.text type)) (id : Json) :
    (IsInvoicePayment delivery ∧
      ofType delivery id type = .invoicePayment id (.text type) (delivery.dataObject "invoice")) ∨
    (IsSubscriptionDeleted delivery ∧ ofType delivery id type =
      .subscriptionDeleted id (.text type) (delivery.dataObject "subscription")) ∨
    ofType delivery id type = .unhandled id (.text type) := by
  unfold ofType
  split
  · rename_i payment
    refine .inl ⟨?_, rfl⟩
    simpa [IsInvoicePayment, found, invoicePaymentTypes, Json.lit] using payment
  · split
    · rename_i deletion
      refine .inr (.inl ⟨?_, rfl⟩)
      rw [IsSubscriptionDeleted, found, deletion]
      rfl
    · exact .inr (.inr rfl)

theorem ofType_describes {type : Text} (found : delivery.at? "type" = some (.text type)) :
    (ofType delivery (presentId delivery) type).Describes delivery := by
  have keepsType (raw : Text) (here : delivery.at? "type" = some (.text raw)) :
      Json.text type = .text raw := Option.some.inj (found.symm.trans here)
  rcases ofType_cases found (presentId delivery) with
    ⟨payment, sorted⟩ | ⟨deletion, sorted⟩ | sorted
  all_goals rw [sorted]
  · refine ⟨fun _ => presentId_of_text, Json.isText_text type, keepsType, ?_, nofun⟩
    intro _ _ _ same
    cases same
    exact ⟨payment, delivery.yields_dataObject "invoice"⟩
  · refine ⟨fun _ => presentId_of_text, Json.isText_text type, keepsType, nofun, ?_⟩
    intro _ _ _ same
    cases same
    exact ⟨deletion, delivery.yields_dataObject "subscription"⟩
  · exact ⟨fun _ => presentId_of_text, Json.isText_text type, keepsType, nofun, nofun⟩

theorem unhandled_describes (other : ∀ type, delivery.at? "type" ≠ some (.text type))
    (type : Text) :
    (unhandled (.text (presentId delivery).display) (.text type)).Describes delivery where
  keepsId id here := by
    rw [presentId_of_text here]
    rfl
  typed := Json.isText_text type
  keepsType raw here := absurd here (other raw)
  payment := nofun
  deletion := nofun

theorem Describes.isWellTyped_iff (describes : event.Describes delivery) :
    event.IsWellTyped ↔ event.id.IsText := by
  have absentOrObject {kind : String} {object : Json} (yields : delivery.Yields kind object) :
      object = .null ∨ ∃ members, object = .object members := by
    cases yields with
    | nothing => exact .inl rfl
    | object members => exact .inr ⟨members, rfl⟩
  constructor
  · intro typed
    cases event <;> exact typed.1
  · intro text
    cases event with
    | invoicePayment id type invoice =>
      exact ⟨text, describes.typed, absentOrObject (describes.payment _ _ _ rfl).2⟩
    | subscriptionDeleted id type subscription =>
      exact ⟨text, describes.typed, absentOrObject (describes.deletion _ _ _ rfl).2⟩
    | unhandled id type => exact ⟨text, describes.typed⟩

theorem ofType_id (id : Json) (type : Text) : (ofType delivery id type).id = id := by
  unfold ofType
  split
  · rfl
  · split <;> rfl

end

/-- Every delivery is classified, as what it says it is. The fields of the event have their declared
types unless the delivery has an id that is kept although it is no text. -/
theorem classification_wellTyped_iff (delivery : Members) :
    ∃ event, classify .plain delivery = .ok event ∧ event.Describes delivery ∧
      (event.IsWellTyped ↔ ¬ KeepsForeignId delivery) := by
  by_cases text : ∃ type, delivery.at? "type" = some (.text type)
  · obtain ⟨type, found⟩ := text
    have describes := ofType_describes found
    refine ⟨_, classify_plain_of_text found, describes, ?_⟩
    rw [describes.isWellTyped_iff, ofType_id, presentId_isText_iff]
    exact not_congr (iff_and_self.mpr fun _ => ⟨type, found⟩)
  · obtain ⟨type, classified⟩ := classify_plain_of_other (not_exists.1 text)
    have describes := unhandled_describes (not_exists.1 text) type
    refine ⟨_, classified, describes, ?_⟩
    rw [describes.isWellTyped_iff]
    exact iff_of_true (Json.isText_text _) fun foreign => text foreign.1

/-- A payment whose id is a number keeps the number. -/
theorem numbered_payment_not_wellTyped :
    let delivery : Members := [(Text.lit "id", .integer 5),
      (Text.lit "type", .lit "invoice.payment_succeeded")]
    classify .plain delivery =
        .ok (.invoicePayment (.integer 5) (.lit "invoice.payment_succeeded") .null) ∧
      ¬ (BillingEvent.invoicePayment (.integer 5) (.lit "invoice.payment_succeeded")
        .null).IsWellTyped := by
  refine ⟨by decide +kernel, fun typed => ?_⟩
  obtain ⟨text, same⟩ := typed.1
  cases same

end BillingEvent

end Tollgate
