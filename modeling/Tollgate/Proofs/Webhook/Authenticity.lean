import Tollgate.Proofs.Text.Utf8
import Tollgate.Proofs.Webhook.Routing
import Tollgate.Proofs.Webhook.Tolerance

namespace Tollgate

namespace Payload

def text? : Payload → Option Text
  | .text content => some content
  | .bytes content => Utf8.decode content

def bytes? : Payload → Option Bytes
  | .text content => Utf8.encode content
  | .bytes content => some content

def IsObject (payload : Payload) : Prop :=
  ∃ content members, payload.text? = some content ∧ Json.read content = .ok (.object members)

end Payload

open Traced

namespace WebhookService

/-- The first timestamp of the header is a number, the digest of that timestamp and the payload is
among the signatures, and the timestamp is as recent as the tolerance asks for. -/
structure IsAuthentic (service : WebhookService) (now : Clock) (payload : Payload) (header : Text)
    (timestamp : Int) : Prop where
  stamped : ∃ value, Webhook.FirstValue (Webhook.headerItems header) "t" value ∧
    Integer.parse? value = some timestamp
  signed : ∃ key bytes, Utf8.encode service.secret = some key ∧ payload.bytes? = some bytes ∧
    (Text.lit "v1", some (Hex.encode (Digest.sha256.hmac key
      ((Integer.decimal timestamp).lowBytes ++ 0x2E :: bytes)))) ∈ Webhook.headerItems header
  recent : ∀ seconds, service.tolerance = some seconds → seconds ≠ 0 →
    now.time.Allows seconds timestamp

theorem payloadText_eq_ok_iff {payload : Payload} {content : Text} :
    payloadText payload = .ok content ↔ payload.text? = some content := by
  cases payload with
  | text content => simp [payloadText, Payload.text?]
  | bytes content =>
    simp only [payloadText, Payload.text?]
    cases Utf8.decode content <;> simp

theorem encoded_eq_ok_iff {s : Text} {bytes : Bytes} :
    encoded s = .ok bytes ↔ Utf8.encode s = some bytes := by
  unfold encoded
  cases Utf8.encode s <;> simp

theorem openDelivery_of_read {service : WebhookService} {now : Clock} {payload : Payload}
    {content header : Text} (read : payload.text? = some content) :
    service.openDelivery now payload header =
      service.verify now content header >>= fun _ => readEvent content := by
  unfold openDelivery
  rw [payloadText_eq_ok_iff.mpr read]
  rfl

theorem verify_of_parsed {service : WebhookService} {now : Clock} {content header : Text}
    {parsed : Webhook.SignatureHeader}
    (found : Webhook.SignatureHeader.parse? header = some parsed)
    (signed : parsed.signatures ≠ []) :
    service.verify now content header = do
      let key ← encoded service.secret
      let bytes ← encoded content
      let isSigned ← (Webhook.findSignature (Webhook.signatureOf key parsed.timestamp bytes)
        parsed.signatures).mapError .payload
      if !isSigned then throw (.signature .noMatch)
      match Webhook.isStale now service.tolerance parsed.timestamp with
      | none => throw (.crash .outOfRange)
      | some true => throw (.signature (.stale parsed.timestamp))
      | some false => return () := by
  have someSignature : ¬ parsed.signatures.isEmpty = true := by simp [signed]
  unfold verify
  rw [found]
  exact if_neg someSignature

theorem bytes?_of_text? {payload : Payload} {content : Text} {bytes : Bytes}
    (read : payload.text? = some content) (written : Utf8.encode content = some bytes) :
    payload.bytes? = some bytes := by
  cases payload with
  | text _ =>
    cases read
    exact written
  | bytes held =>
    have same : Utf8.encode content = some held := Utf8.encode_of_decode read
    exact same.symm.trans written

theorem verify_ok {service : WebhookService} {now : Clock} {content header : Text}
    (ok : service.verify now content header = .ok ()) :
    ∃ parsed key bytes, Webhook.SignatureHeader.parse? header = some parsed ∧
      Utf8.encode service.secret = some key ∧ Utf8.encode content = some bytes ∧
      Webhook.signatureOf key parsed.timestamp bytes ∈ parsed.signatures ∧
      Webhook.isStale now service.tolerance parsed.timestamp = some false := by
  unfold verify at ok
  cases found : Webhook.SignatureHeader.parse? header with
  | none => simp [found, throw, throwThe, MonadExceptOf.throw] at ok
  | some parsed =>
    simp only [found] at ok
    obtain ⟨-, ok⟩ := throw_if_eq_ok.mp ok
    obtain ⟨key, secret, ok⟩ := bind_eq_ok.mp ok
    obtain ⟨bytes, written, ok⟩ := bind_eq_ok.mp ok
    obtain ⟨isSigned, search, ok⟩ := bind_eq_ok.mp ok
    obtain ⟨signed, ok⟩ := throw_if_eq_ok.mp ok
    rw [Bool.not_eq_false'] at signed
    rw [signed] at search
    have member := Webhook.mem_of_findSignature (mapError_eq_ok.mp search)
    refine ⟨parsed, key, bytes, rfl, encoded_eq_ok_iff.mp secret, encoded_eq_ok_iff.mp written,
      member, ?_⟩
    split at ok
    · cases ok
    · cases ok
    · rename_i recent
      exact recent

theorem isAuthentic_of_verify {service : WebhookService} {now : Clock} {payload : Payload}
    {content header : Text} (read : payload.text? = some content)
    (ok : service.verify now content header = .ok ()) :
    ∃ timestamp, service.IsAuthentic now payload header timestamp := by
  obtain ⟨parsed, key, bytes, found, secret, written, member, recent⟩ := verify_ok ok
  obtain ⟨timestamps, value, stamps, first, number, signatures⟩ :=
    Webhook.parse?_eq_some_iff.mp found
  refine ⟨parsed.timestamp, ?_, ?_, ?_⟩
  · exact ⟨value, Webhook.firstValue_of_valuesOf stamps first, number⟩
  · have here := Webhook.mem_of_valuesOf signatures member
    exact ⟨key, bytes, secret, bytes?_of_text? read written, here⟩
  · intro seconds bounded nonzero
    exact Webhook.isStale_eq_false recent bounded nonzero

theorem readEvent_eq_ok {content : Text} {event : Json} (ok : readEvent content = .ok event) :
    ∃ members, event = .object members ∧ Json.read content = .ok (.object members) := by
  unfold readEvent at ok
  split at ok
  · cases ok
  · cases ok
  · rename_i members read
    split at ok
    · cases ok
      exact ⟨members, rfl, read⟩
    · cases ok
  · cases ok

theorem openDelivery_eq_ok {service : WebhookService} {now : Clock} {payload : Payload}
    {header : Text} {event : Json} (ok : service.openDelivery now payload header = .ok event) :
    (∃ timestamp, service.IsAuthentic now payload header timestamp) ∧
      ∃ content members, payload.text? = some content ∧
        Json.read content = .ok (.object members) ∧ event = .object members := by
  obtain ⟨content, text, ok⟩ := bind_eq_ok.mp ok
  obtain ⟨verified, ok⟩ := unit_bind_eq_ok.mp ok
  have read := payloadText_eq_ok_iff.mp text
  obtain ⟨members, same, object⟩ := readEvent_eq_ok ok
  exact ⟨isAuthentic_of_verify read verified, content, members, read, object, same⟩

theorem constructEvent_calls (service : WebhookService) (now : Clock) (payload : Payload)
    (header : Text) : (service.constructEvent now payload header).calls = [] := by
  unfold constructEvent
  split <;> rfl

def Failure.fault : Failure → Fault
  | signature flaw => .api .signatureVerificationError (some (.signature flaw))
  | payload flaw => .api .deserializationError (some (.payload flaw))
  | crash cause => .crash cause

theorem constructEvent_outcome (service : WebhookService) (now : Clock) (payload : Payload)
    (header : Text) :
    (service.constructEvent now payload header).outcome =
      (service.openDelivery now payload header).mapError Failure.fault := by
  unfold constructEvent
  split <;> rename_i opened <;> simp [opened, warn, Failure.fault]

theorem constructEvent_outcome_ok_iff {service : WebhookService} {now : Clock} {payload : Payload}
    {header : Text} {event : Json} :
    (service.constructEvent now payload header).outcome = .ok event ↔
      service.openDelivery now payload header = .ok event := by
  rw [constructEvent_outcome, mapError_eq_ok]

theorem handleDelivery_eq (service : WebhookService) (billing : Billing) (now : Clock)
    (payload : Payload) (header : Text) :
    service.handleDelivery billing now payload header =
      service.constructEvent now payload header >>= act billing .resource :=
  rfl

theorem handleDelivery_calls_of_ok {service : WebhookService} {billing : Billing} {now : Clock}
    {payload : Payload} {header : Text} {event : Json}
    (opened : service.openDelivery now payload header = .ok event) :
    (service.handleDelivery billing now payload header).calls =
      (act billing .resource event).calls := by
  have built := constructEvent_outcome_ok_iff.mpr opened
  rw [handleDelivery_eq, bind_calls_of_ok built, constructEvent_calls, List.nil_append]

theorem handleDelivery_outcome_of_ok {service : WebhookService} {billing : Billing} {now : Clock}
    {payload : Payload} {header : Text} {event : Json}
    (opened : service.openDelivery now payload header = .ok event) :
    (service.handleDelivery billing now payload header).outcome =
      (act billing .resource event).outcome := by
  have built := constructEvent_outcome_ok_iff.mpr opened
  rw [handleDelivery_eq, bind_of_ok built]

theorem handleDelivery_called {service : WebhookService} {billing : Billing} {now : Clock}
    {payload : Payload} {header : Text}
    (called : (service.handleDelivery billing now payload header).calls ≠ []) :
    ∃ event call, service.openDelivery now payload header = .ok event ∧
      (service.handleDelivery billing now payload header).calls = [call] ∧
      (service.handleDelivery billing now payload header).outcome = billing call := by
  cases built : (service.constructEvent now payload header).outcome with
  | error fault =>
    rw [handleDelivery_eq, bind_calls_of_error built, constructEvent_calls] at called
    exact absurd rfl called
  | ok event =>
    have opened := constructEvent_outcome_ok_iff.mp built
    obtain ⟨-, content, members, -, -, rfl⟩ := openDelivery_eq_ok opened
    obtain ⟨action, route⟩ := exists_routes members
    rw [handleDelivery_calls_of_ok opened] at called ⊢
    rw [handleDelivery_outcome_of_ok opened]
    -- the spelling of the event's values can crash, but only before the call
    obtain ⟨call, single, ended⟩ := (act_follows billing .resource route).eq_billing called
    exact ⟨_, call, opened, single, ended⟩

/-- A delivery is billed only if it is authentic and an event, and once at most. A delivery that
fails in any way of the service's own is not billed. -/
theorem delivery_authenticity (service : WebhookService) (billing : Billing) (now : Clock)
    (payload : Payload) (header : Text) :
    ((service.handleDelivery billing now payload header).calls ≠ [] →
      (∃ timestamp, service.IsAuthentic now payload header timestamp) ∧ payload.IsObject ∧
        ∃ call, (service.handleDelivery billing now payload header).calls = [call]) ∧
    ∀ fault, (service.handleDelivery billing now payload header).outcome = .error fault →
      (∀ call ∈ (service.handleDelivery billing now payload header).calls,
        billing call ≠ .error fault) →
      (service.handleDelivery billing now payload header).calls = [] := by
  constructor
  · intro called
    obtain ⟨event, call, opened, single, -⟩ := handleDelivery_called called
    obtain ⟨authentic, content, members, text, object, -⟩ := openDelivery_eq_ok opened
    exact ⟨authentic, ⟨content, members, text, object⟩, call, single⟩
  · intro fault failed own
    by_cases called : (service.handleDelivery billing now payload header).calls = []
    · exact called
    · obtain ⟨event, call, -, single, ended⟩ := handleDelivery_called called
      have member : call ∈ (service.handleDelivery billing now payload header).calls := by
        rw [single]
        exact List.mem_singleton.mpr rfl
      exact absurd (ended.symm.trans failed) (own call member)

/-- On a clock that needs no rounding, a billed delivery has a timestamp that lies no further back
than the tolerance. -/
theorem exists_timestamp_of_exact {service : WebhookService} {billing : Billing} {now : Clock}
    {payload : Payload} {header : Text} {tolerance : Int} {q : ℚ}
    (called : (service.handleDelivery billing now payload header).calls ≠ [])
    (bounded : service.tolerance = some tolerance) (positive : 0 < tolerance)
    (exact : now.time.IsExact tolerance) (value : now.time.seconds? = some q) :
    ∃ timestamp, service.IsAuthentic now payload header timestamp ∧ q - tolerance ≤ timestamp := by
  obtain ⟨event, call, opened, -, -⟩ := handleDelivery_called called
  obtain ⟨⟨timestamp, authentic⟩, -⟩ := openDelivery_eq_ok opened
  have allowed := authentic.recent tolerance bounded positive.ne'
  exact ⟨timestamp, authentic,
    (Seconds.allows_iff_of_exact timestamp positive exact value).2.mp allowed⟩

def plainService : WebhookService := ⟨Text.lit "whsec_test", some 300⟩

def cancellation : Payload :=
  .text (Text.lit "\x7b\"type\":\"customer.subscription.deleted\"" ++
    Text.lit ",\"data\":\x7b\"object\":\x7b\"object\":\"subscription\"\x7d\x7d\x7d")

def cancellationHeader : Text :=
  Text.lit "t=1700000000,v1=" ++
    Text.lit "dcd03c516e36a98d646f50a9e26675c7d2103a022425c15cfa3d2aa46ef1ff9e"

theorem cancellation_called :
    (plainService.handleDelivery (fun _ => .ok ()) (.whole 1700000000) cancellation
      cancellationHeader).calls ≠ [] := by
  decide +kernel

theorem cancellation_authenticity :
    (∃ timestamp, plainService.IsAuthentic (.whole 1700000000) cancellation cancellationHeader
      timestamp) ∧ cancellation.IsObject ∧
      ∃ call, (plainService.handleDelivery (fun _ => .ok ()) (.whole 1700000000) cancellation
        cancellationHeader).calls = [call] :=
  (delivery_authenticity plainService (fun _ => .ok ()) (.whole 1700000000) cancellation
    cancellationHeader).1 cancellation_called

end WebhookService

end Tollgate
