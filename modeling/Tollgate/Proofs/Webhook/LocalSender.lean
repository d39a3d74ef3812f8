import Tollgate.Command
import Tollgate.Proofs.Json.Detect
import Tollgate.Proofs.Number.Truncation
import Tollgate.Proofs.Webhook.Replay
import Tollgate.Proofs.Webhook.SignatureFirst

namespace Tollgate

open Webhook

/-- The bytes are JSON with this text and this value, in one of the encodings of JSON. -/
structure Json.IsDocument (bytes : Bytes) (text : Text) (value : Json) : Prop where
  decoded : Json.decode bytes = some text
  read : Json.read text = .ok value

def Json.IsEvent (value : Json) : Prop :=
  ∃ members, value = .object members ∧ Resource.areReadableMembers .ordinary [] members = true

namespace Seconds

def IsTime : Seconds → Prop
  | whole n => IsReadable n
  | binary (.finite _ m e) => Binary64.InFormat m e
  | binary _ => False

section

variable {now : Seconds} {tolerance : Int}

theorem isReadable_truncate (shows : now.IsTime) : IsReadable now.truncate := by
  match now, shows with
  | .whole n, readable => exact readable
  | .binary (.finite negative m e), format =>
    change (Binary64.whole negative m e).natAbs < 10 ^ Integer.digitLimit
    have room (j k : Nat) (few : j + k ≤ Integer.digitLimit) :
        2 ^ j * 2 ^ k ≤ 10 ^ Integer.digitLimit := by
      rw [← pow_add]
      calc 2 ^ (j + k) ≤ 10 ^ (j + k) := Nat.pow_le_pow_left (by decide) _
        _ ≤ 10 ^ Integer.digitLimit := Nat.pow_le_pow_right (by decide) few
    exact (Binary64.natAbs_whole_lt negative format).trans_le (room 53 971 (by decide))

theorem allows_truncate (shows : now.IsTime) (positive : 0 < tolerance)
    (measures : now.Measures tolerance) : now.Allows tolerance now.truncate := by
  match now, shows with
  | .whole n, _ =>
    rw [allows_whole]
    change n - tolerance ≤ n
    omega
  | .binary (.finite negative m e), format =>
    have stands := standsFor_difference measures
    have one : Binary64.rounded 1 = 1 :=
      Binary64.rounded_exact (k := 1) (f := 0) (by decide) (by decide) (by simp)
    have second : (1 : ℚ) ≤ Binary64.rounded tolerance := by
      rw [← one]
      apply Binary64.rounded_mono
      exact_mod_cast positive
    apply stands.not_isAbove_whole format
    rw [← Binary64.rounded_whole format]
    apply Binary64.rounded_mono
    have next := Binary64.lt_whole_add_one negative m e
    linarith

end

end Seconds

namespace Clock

def ShowsTime (now : Clock) : Prop := now.time.IsTime

section

variable {now : Clock} {tolerance : Int}

theorem isStale_truncate (shows : now.ShowsTime) (nonneg : 0 ≤ tolerance)
    (measures : now.time.Measures tolerance) :
    isStale now (some tolerance) now.truncate = some false := by
  rcases nonneg.eq_or_lt with rfl | positive
  · rfl
  · rw [isStale_eq_isBefore? positive, Seconds.isBefore?_eq_some_iff]
    have allows := Seconds.allows_truncate shows positive measures
    exact ⟨measures, fun _ => allows, fun _ => rfl⟩

theorem isStale_of_not_measures {timestamp : Int} (nonneg : 0 ≤ tolerance)
    (unmeasured : ¬ now.time.Measures tolerance) :
    isStale now (some tolerance) timestamp = none := by
  rcases nonneg.eq_or_lt with rfl | positive
  · exact absurd (Seconds.measures_of_small (n := 0) (by decide)) unmeasured
  · rw [isStale_eq_isBefore? positive, Option.eq_none_iff_forall_ne_some]
    intro before known
    exact unmeasured (Seconds.isBefore?_eq_some_iff.mp known).1

end

end Clock

namespace WebhookService

section

variable {secret text content : Text} {value : Json} {key bytes : Bytes} {now : Clock}
  {tolerance : Int}

theorem readEvent_refuses_iff : (∃ flaw, readEvent content = .error (.payload flaw)) ↔
    ¬ ∃ value, Json.read content = .ok value ∧ value.IsEvent := by
  unfold readEvent
  cases read : Json.read content with
  | error flaw => cases flaw <;> simp
  | ok value =>
    cases value with
    | object members =>
      cases readable : Resource.areReadableMembers .ordinary [] members <;>
        simp [Json.IsEvent, readable]
    | _ => simp [Json.IsEvent]

theorem reads_event_iff (document : Json.IsDocument bytes text value)
    (decoded : Utf8.decode bytes = some content) :
    (∃ value, Json.read content = .ok value ∧ value.IsEvent) ↔
      value.IsEvent ∧ Utf8.encode text = some bytes := by
  constructor
  · intro ⟨other, read, event⟩
    obtain ⟨members, rfl, readable⟩ := id event
    -- what is an object to the service is detected as UTF-8 by the command
    have detected := Json.decode_of_object decoded read
    cases detected.symm.trans document.decoded
    cases read.symm.trans document.read
    exact ⟨event, Utf8.encode_of_decode decoded⟩
  · intro ⟨event, written⟩
    cases (Utf8.decode_of_encode written).symm.trans decoded
    exact ⟨value, document.read, event⟩

theorem openDelivery_of_truncate (encoded : Utf8.encode secret = some key)
    (shows : now.ShowsTime) (nonneg : 0 ≤ tolerance) (bytes : Bytes) :
    let opened := openDelivery ⟨secret, some tolerance⟩ now (.bytes bytes)
      (signatureHeader key now.truncate bytes)
    Utf8.decode bytes = none ∧ opened = .error (.payload .undecodable) ∨
      ∃ content, Utf8.decode bytes = some content ∧
        (now.time.Measures tolerance ∧ opened = readEvent content ∨
          ¬ now.time.Measures tolerance ∧ opened = .error (.crash .outOfRange)) := by
  intro opened
  have short := Seconds.isReadable_truncate shows
  cases decoded : Utf8.decode bytes with
  | none =>
    have unread : (Payload.bytes bytes).text? = none := decoded
    exact .inl ⟨rfl, (ComplainsFirst.undecodable unread).openDelivery now⟩
  | some content =>
    have read : (Payload.bytes bytes).text? = some content := decoded
    have written := Utf8.encode_of_decode decoded
    refine .inr ⟨content, rfl, ?_⟩
    by_cases measures : now.time.Measures tolerance
    · have fresh := Clock.isStale_truncate shows nonneg measures
      exact .inl ⟨measures, openDelivery_of_signed encoded short read written fresh⟩
    · have verified : verify ⟨secret, some tolerance⟩ now content
          (signatureHeader key now.truncate bytes) = _ :=
        verify_signatureHeader now encoded short written
      rw [if_pos rfl, Clock.isStale_of_not_measures nonneg measures] at verified
      have crashed : opened = _ := openDelivery_of_read read
      rw [verified] at crashed
      exact .inr ⟨measures, crashed⟩

theorem not_refusesSignature_of_truncate (encoded : Utf8.encode secret = some key)
    (shows : now.ShowsTime) (nonneg : 0 ≤ tolerance) (bytes : Bytes) :
    ¬ RefusesSignature ⟨secret, some tolerance⟩ now (.bytes bytes)
      (signatureHeader key now.truncate bytes) := by
  rw [refusesSignature_iff_openDelivery]
  intro ⟨flaw, refused⟩
  rcases openDelivery_of_truncate encoded shows nonneg bytes with
    ⟨-, complained⟩ | ⟨content, -, ⟨-, opened⟩ | ⟨-, crashed⟩⟩
  · cases complained.symm.trans refused
  · obtain ⟨_, same⟩ := readEvent_error (opened.symm.trans refused)
    cases same
  · cases crashed.symm.trans refused

theorem refusesContent_of_truncate_iff (encoded : Utf8.encode secret = some key)
    (shows : now.ShowsTime) (nonneg : 0 ≤ tolerance)
    (document : Json.IsDocument bytes text value) :
    RefusesContent ⟨secret, some tolerance⟩ now (.bytes bytes)
        (signatureHeader key now.truncate bytes) ↔
      Utf8.decode bytes = none ∨
        now.time.Measures tolerance ∧ ¬ (value.IsEvent ∧ Utf8.encode text = some bytes) := by
  rw [refusesContent_iff_openDelivery]
  rcases openDelivery_of_truncate encoded shows nonneg bytes with
    ⟨undecodable, complained⟩ | ⟨content, decoded, ⟨measures, opened⟩ | ⟨unmeasured, crashed⟩⟩
  · rw [complained]
    exact iff_of_true ⟨_, rfl⟩ (.inl undecodable)
  · rw [opened, readEvent_refuses_iff, reads_event_iff document decoded]
    simp [decoded, measures]
  · rw [crashed]
    simp [decoded, unmeasured]

end

end WebhookService

namespace Command

theorem holdsJson_eq_true {bytes : Bytes} (holds : holdsJson bytes = .ok true) :
    ∃ text value, Json.IsDocument bytes text value := by
  unfold holdsJson at holds
  split at holds
  · cases holds
  · rename_i text decoded
    split at holds
    · rename_i value read
      exact ⟨text, value, decoded, read⟩
    all_goals cases holds

theorem makeSignature_spec {content : Text → Except Crash Bytes} {source : Settings.Source}
    {now : Clock} {path secret : Text} {result : Result} {bytes : Bytes}
    (ran : makeSignature content source now [path, secret] = .ok result)
    (succeeded : result.code = 0) (file : content path = .ok bytes) :
    ∃ key, Utf8.encode secret = some key ∧
      result.out = signatureHeader key now.truncate bytes ++ Text.lit "\n" ∧
      ∃ text value, Json.IsDocument bytes text value := by
  change sign content source now path (some secret) = .ok result at ran
  unfold sign at ran
  obtain ⟨payload, given, ran⟩ := bind_eq_ok.mp ran
  cases file.symm.trans given
  obtain ⟨holds, checked, ran⟩ := bind_eq_ok.mp ran
  cases holds with
  | false =>
    cases ran
    cases succeeded
  | true =>
    rw [if_pos rfl] at ran
    obtain ⟨same, chosen, ran⟩ := bind_eq_ok.mp ran
    cases chosen
    cases encoded : Utf8.encode secret with
    | none =>
      rw [encoded] at ran
      cases ran
    | some key =>
      rw [encoded] at ran
      cases ran
      exact ⟨key, rfl, rfl, holdsJson_eq_true checked⟩

/-- Whatever document the command signs, the service does not refuse its signature, and refuses its
content exactly if the document is no event in plain UTF-8. A tolerance that the clock cannot
measure crashes before the content is read. -/
theorem signed_document_taken_iff (content : Text → Except Crash Bytes)
    (source : Settings.Source) (now : Clock) (path secret : Text) (result : Result) (bytes : Bytes)
    (tolerance : Int) (ran : makeSignature content source now [path, secret] = .ok result)
    (succeeded : result.code = 0) (file : content path = .ok bytes) (shows : now.ShowsTime)
    (nonneg : 0 ≤ tolerance) :
    let service : WebhookService := ⟨secret, some tolerance⟩
    ∃ header text value, result.out = header ++ Text.lit "\n" ∧
      Json.IsDocument bytes text value ∧
      ¬ service.RefusesSignature now (.bytes bytes) header ∧
      (service.RefusesContent now (.bytes bytes) header ↔ Utf8.decode bytes = none ∨
        now.time.Measures tolerance ∧ ¬ (value.IsEvent ∧ Utf8.encode text = some bytes)) := by
  intro service
  obtain ⟨key, encoded, printed, text, value, document⟩ := makeSignature_spec ran succeeded file
  refine ⟨signatureHeader key now.truncate bytes, text, value, printed, document, ?_, ?_⟩
  · exact WebhookService.not_refusesSignature_of_truncate encoded shows nonneg bytes
  · exact WebhookService.refusesContent_of_truncate_iff encoded shows nonneg document

theorem makeSignature_of_json {content : Text → Except Crash Bytes} {path secret : Text}
    {key bytes : Bytes} (source : Settings.Source) (now : Clock)
    (file : content path = .ok bytes) (holds : holdsJson bytes = .ok true)
    (encoded : Utf8.encode secret = some key) :
    makeSignature content source now [path, secret] = .ok
      { code := 0, out := signatureHeader key now.truncate bytes ++ Text.lit "\n" } := by
  change sign content source now path (some secret) = _
  unfold sign
  simp only [file, holds, signingSecret, encoded, bind, Except.bind, if_true]
  rfl

def halfSecond : Clock := .binary (.finite false 3400000001 (-1))

def noSource : Settings.Source := ⟨[], none⟩

def signFor (now : Clock) (bytes : Bytes) : Except Crash Result :=
  makeSignature (fun _ => .ok bytes) noSource now
    [Text.lit "payload.json", WebhookService.plainService.secret]

theorem signFor_of_json (now : Clock) {bytes : Bytes} (holds : holdsJson bytes = .ok true) :
    ∃ result, signFor now bytes = .ok result ∧ result.code = 0 ∧ result.out = signatureHeader
      WebhookService.plainService.secret.lowBytes now.truncate bytes ++ Text.lit "\n" :=
  ⟨_, makeSignature_of_json noSource now rfl holds rfl, rfl, rfl⟩

theorem signed_object_taken :
    let service : WebhookService := ⟨WebhookService.plainService.secret, some 1⟩
    halfSecond.ShowsTime ∧
      (∃ result header, signFor halfSecond [0x7B, 0x7D] = .ok result ∧ result.code = 0 ∧
        result.out = header ++ Text.lit "\n" ∧
        ¬ service.RefusesSignature halfSecond (.bytes [0x7B, 0x7D]) header ∧
        ¬ service.RefusesContent halfSecond (.bytes [0x7B, 0x7D]) header) ∧
      ∃ result header, signFor halfSecond [0x5B, 0x5D] = .ok result ∧ result.code = 0 ∧
        result.out = header ++ Text.lit "\n" ∧
        ¬ service.RefusesSignature halfSecond (.bytes [0x5B, 0x5D]) header ∧
        service.RefusesContent halfSecond (.bytes [0x5B, 0x5D]) header := by
  intro service
  have shows : halfSecond.ShowsTime := ⟨by decide, by decide, by decide⟩
  have measures : halfSecond.time.Measures 1 := Seconds.measures_of_small (n := 1) (by decide)
  have taken (bytes : Bytes) (holds : holdsJson bytes = .ok true) :
      ∃ result header text value, signFor halfSecond bytes = .ok result ∧ result.code = 0 ∧
        result.out = header ++ Text.lit "\n" ∧ Json.IsDocument bytes text value ∧
        ¬ service.RefusesSignature halfSecond (.bytes bytes) header ∧
        (service.RefusesContent halfSecond (.bytes bytes) header ↔ Utf8.decode bytes = none ∨
          halfSecond.time.Measures 1 ∧ ¬ (value.IsEvent ∧ Utf8.encode text = some bytes)) := by
    obtain ⟨result, ran, succeeded, -⟩ := signFor_of_json halfSecond holds
    obtain ⟨header, text, value, sent⟩ := signed_document_taken_iff _ noSource halfSecond _ _
      result bytes 1 ran succeeded rfl shows (by decide)
    exact ⟨result, header, text, value, ran, succeeded, sent⟩
  refine ⟨shows, ?_, ?_⟩
  · obtain ⟨result, header, text, value, ran, succeeded, printed, document, signed, refuses⟩ :=
      taken [0x7B, 0x7D] rfl
    refine ⟨result, header, ran, succeeded, printed, signed, ?_⟩
    cases document.decoded
    cases document.read
    rw [refuses]
    intro refused
    rcases refused with undecodable | ⟨_, other⟩
    · cases undecodable
    · exact other ⟨⟨[], rfl, rfl⟩, rfl⟩
  · obtain ⟨result, header, text, value, ran, succeeded, printed, document, signed, refuses⟩ :=
      taken [0x5B, 0x5D] rfl
    refine ⟨result, header, ran, succeeded, printed, signed, ?_⟩
    cases document.decoded
    cases document.read
    rw [refuses]
    refine .inr ⟨measures, ?_⟩
    intro ⟨⟨members, object, _⟩, _⟩
    cases object

def markedObject : Bytes := [0xEF, 0xBB, 0xBF, 0x7B, 0x7D]

/-- The command signs an empty object with a mark, and the service refuses it as no event. -/
theorem marked_object_refused :
    ∃ result header, signFor (.whole 1700000000) markedObject = .ok result ∧ result.code = 0 ∧
      result.out = header ++ Text.lit "\n" ∧
      Json.IsDocument markedObject (Text.lit "\x7b\x7d") (.object []) ∧
      Json.IsEvent (.object []) ∧
      WebhookService.plainService.RefusesContent (.whole 1700000000) (.bytes markedObject)
        header := by
  have document : Json.IsDocument markedObject (Text.lit "\x7b\x7d") (.object []) := ⟨rfl, rfl⟩
  have shows : (Clock.whole 1700000000).ShowsTime := by
    have few : (1700000000 : Int).natAbs < 10 ^ 10 := by decide
    exact few.trans_le (Nat.pow_le_pow_right (by decide) (by decide))
  obtain ⟨result, ran, succeeded, printed⟩ :=
    signFor_of_json (.whole 1700000000) (show holdsJson markedObject = .ok true from rfl)
  refine ⟨result, _, ran, succeeded, printed, document, ⟨[], rfl, rfl⟩, ?_⟩
  apply (WebhookService.refusesContent_of_truncate_iff rfl shows (by decide) document).mpr
  refine .inr ⟨trivial, ?_⟩
  intro ⟨_, written⟩
  cases written

end Command

end Tollgate
