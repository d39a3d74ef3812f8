import Tollgate.Proofs.Webhook.Binding

namespace Tollgate

open Traced

namespace Webhook

/-- The search comes upon a signature that cannot be compared, and not upon the expected one
before it. -/
def MeetsOdd (expected : Text) (signatures : List Text) : Prop :=
  ∃ before odd after, signatures = before ++ odd :: after ∧ odd.isAscii = false ∧
    ∀ signature ∈ before, signature.isAscii = true ∧ signature ≠ expected

/-- The search comes upon the expected signature, and can compare all before it. -/
def MeetsExpected (expected : Text) (signatures : List Text) : Prop :=
  ∃ before after, signatures = before ++ expected :: after ∧
    ∀ signature ∈ before, signature.isAscii = true

section

variable {expected signature : Text} {signatures : List Text}

theorem meetsOdd_cons : MeetsOdd expected (signature :: signatures) ↔
    signature.isAscii = false ∨
      signature.isAscii = true ∧ signature ≠ expected ∧ MeetsOdd expected signatures := by
  constructor
  · rintro ⟨before, odd, after, split, wide, compared⟩
    cases before with
    | nil =>
      obtain ⟨rfl, rfl⟩ := List.cons.inj split
      exact .inl wide
    | cons first before =>
      obtain ⟨rfl, rfl⟩ := List.cons.inj split
      obtain ⟨ascii, other⟩ := compared signature (List.mem_cons_self ..)
      exact .inr ⟨ascii, other, before, odd, after, rfl, wide,
        fun later member => compared later (List.mem_cons_of_mem _ member)⟩
  · rintro (wide | ⟨ascii, other, before, odd, after, rfl, wide, compared⟩)
    · exact ⟨[], signature, signatures, rfl, wide, nofun⟩
    · refine ⟨signature :: before, odd, after, rfl, wide, fun one member => ?_⟩
      rcases List.mem_cons.mp member with rfl | member
      · exact ⟨ascii, other⟩
      · exact compared one member

theorem meetsExpected_cons : MeetsExpected expected (signature :: signatures) ↔
    signature = expected ∨ signature.isAscii = true ∧ MeetsExpected expected signatures := by
  constructor
  · rintro ⟨before, after, split, compared⟩
    cases before with
    | nil =>
      obtain ⟨rfl, rfl⟩ := List.cons.inj split
      exact .inl rfl
    | cons first before =>
      obtain ⟨rfl, rfl⟩ := List.cons.inj split
      exact .inr ⟨compared signature (List.mem_cons_self ..), before, after, rfl,
        fun later member => compared later (List.mem_cons_of_mem _ member)⟩
  · rintro (rfl | ⟨ascii, before, after, rfl, compared⟩)
    · exact ⟨[], signatures, rfl, nofun⟩
    · refine ⟨signature :: before, after, rfl, fun one member => ?_⟩
      rcases List.mem_cons.mp member with rfl | member
      · exact ascii
      · exact compared one member

theorem MeetsOdd.ne_nil (meets : MeetsOdd expected signatures) : signatures ≠ [] := by
  obtain ⟨before, odd, after, rfl, -⟩ := meets
  simp

theorem MeetsExpected.ne_nil (meets : MeetsExpected expected signatures) : signatures ≠ [] := by
  obtain ⟨before, after, rfl, -⟩ := meets
  simp

theorem findSignature_error_iff (ascii : expected.isAscii = true) {flaw : PayloadFlaw} :
    findSignature expected signatures = .error flaw ↔
      flaw = .incomparableSignature ∧ MeetsOdd expected signatures := by
  induction signatures with
  | nil => simp [findSignature, MeetsOdd]
  | cons signature signatures ih =>
    rw [meetsOdd_cons]
    unfold findSignature
    by_cases narrow : signature.isAscii = true
    · by_cases same : signature = expected
      · simp [ascii, same]
      · simp [narrow, same, ih]
    · simp [narrow, eq_comm]

theorem findSignature_true_iff (ascii : expected.isAscii = true) :
    findSignature expected signatures = .ok true ↔ MeetsExpected expected signatures := by
  induction signatures with
  | nil => simp [findSignature, MeetsExpected]
  | cons signature signatures ih =>
    rw [meetsExpected_cons]
    unfold findSignature
    by_cases narrow : signature.isAscii = true
    · by_cases same : signature = expected
      · simp [ascii, same]
      · simp [narrow, same, ih]
    · -- the expected signature is ASCII, so one that is not is another
      have other : signature ≠ expected := fun same => narrow (same ▸ ascii)
      simp [narrow, other]

end

end Webhook

namespace WebhookService

open Webhook

/-- Deliveries that are complained about for their content before their signature is told good or
bad. -/
inductive ComplainsFirst (service : WebhookService) (payload : Payload) (header : Text) :
    PayloadFlaw → Prop where
  | undecodable : payload.text? = none → ComplainsFirst service payload header .undecodable
  | unencodable {content : Text} {parsed : SignatureHeader} : payload.text? = some content →
    SignatureHeader.parse? header = some parsed → parsed.signatures ≠ [] →
    Utf8.encode service.secret = none ∨ Utf8.encode content = none →
    ComplainsFirst service payload header .unencodable
  | incomparable {content : Text} {parsed : SignatureHeader} {key bytes : Bytes} :
    payload.text? = some content → SignatureHeader.parse? header = some parsed →
    Utf8.encode service.secret = some key → Utf8.encode content = some bytes →
    MeetsOdd (signatureOf key parsed.timestamp bytes) parsed.signatures →
    ComplainsFirst service payload header .incomparableSignature

/-- The signature of the delivery is found good for the timestamp in its header, which may be too
old. -/
def IsMatched (service : WebhookService) (payload : Payload) (header : Text) (timestamp : Int) :
    Prop :=
  ∃ content signatures key bytes, payload.text? = some content ∧
    SignatureHeader.parse? header = some ⟨timestamp, signatures⟩ ∧
    Utf8.encode service.secret = some key ∧ Utf8.encode content = some bytes ∧
    MeetsExpected (signatureOf key timestamp bytes) signatures

section

variable {service : WebhookService} {now : Clock} {payload : Payload} {content header : Text}
  {timestamp : Int}

theorem encoded_of_none {s : Text} (unwritable : Utf8.encode s = none) :
    encoded s = .error (.payload .unencodable) := by
  unfold encoded
  rw [unwritable]
  rfl

theorem ComplainsFirst.openDelivery {flaw : PayloadFlaw}
    (complaint : service.ComplainsFirst payload header flaw) (now : Clock) :
    service.openDelivery now payload header = .error (.payload flaw) := by
  cases complaint with
  | undecodable unreadable =>
    cases payload with
    | text content => cases unreadable
    | bytes content =>
      simp only [Payload.text?] at unreadable
      simp only [WebhookService.openDelivery, payloadText, unreadable]
      rfl
  | @unencodable content parsed read found signed unwritable =>
    rw [openDelivery_of_read read, verify_of_parsed found signed]
    -- the secret is encoded before the content, but the complaint is the same
    cases secret : Utf8.encode service.secret with
    | none =>
      rw [encoded_of_none secret]
      rfl
    | some key =>
      have noBytes := unwritable.resolve_left (by simp [secret])
      rw [encoded_eq_ok_iff.mpr secret, encoded_of_none noBytes]
      rfl
  | @incomparable content parsed key bytes read found secret written odd =>
    have search := (findSignature_error_iff (isAscii_signatureOf key parsed.timestamp bytes)).mpr
      ⟨rfl, odd⟩
    rw [openDelivery_of_read read, verify_of_parsed found odd.ne_nil, encoded_eq_ok_iff.mpr secret,
      encoded_eq_ok_iff.mpr written]
    simp only [bind, Except.bind, search, mapError_error]

theorem IsMatched.verify (matched : service.IsMatched payload header timestamp)
    (read : payload.text? = some content) (now : Clock) :
    service.verify now content header =
      match isStale now service.tolerance timestamp with
      | none => .error (.crash .outOfRange)
      | some true => .error (.signature (.stale timestamp))
      | some false => .ok () := by
  obtain ⟨same, signatures, key, bytes, readable, found, secret, written, meets⟩ := matched
  cases read.symm.trans readable
  have search := (findSignature_true_iff (isAscii_signatureOf key timestamp bytes)).mpr meets
  rw [verify_of_parsed found meets.ne_nil, encoded_eq_ok_iff.mpr secret,
    encoded_eq_ok_iff.mpr written]
  simp only [bind, Except.bind, search, mapError_ok, Bool.not_true, Bool.false_eq_true, if_false]
  rfl

theorem verify_ends (read : payload.text? = some content) (now : Clock) :
    (∃ flaw, service.verify now content header = .error (.signature flaw)) ∨
      (∃ flaw, service.ComplainsFirst payload header flaw) ∨
      ∃ timestamp, service.IsMatched payload header timestamp := by
  cases found : SignatureHeader.parse? header with
  | none =>
    refine .inl ⟨.unreadableHeader, ?_⟩
    unfold WebhookService.verify
    rw [found]
    rfl
  | some parsed =>
    by_cases signed : parsed.signatures = []
    · refine .inl ⟨.noSignature, ?_⟩
      unfold WebhookService.verify
      rw [found]
      simp only [signed, List.isEmpty_nil, if_true]
      rfl
    -- from here on the search decides, if secret and content have an encoding
    cases secret : Utf8.encode service.secret with
    | none => exact .inr (.inl ⟨_, .unencodable read found signed (.inl secret)⟩)
    | some key =>
    cases written : Utf8.encode content with
    | none => exact .inr (.inl ⟨_, .unencodable read found signed (.inr written)⟩)
    | some bytes =>
    have ascii := isAscii_signatureOf key parsed.timestamp bytes
    cases search : findSignature (signatureOf key parsed.timestamp bytes) parsed.signatures with
    | error flaw =>
      obtain ⟨-, odd⟩ := (findSignature_error_iff ascii).mp search
      exact .inr (.inl ⟨_, .incomparable read found secret written odd⟩)
    | ok isSigned =>
    cases isSigned with
    | true =>
      have meets := (findSignature_true_iff ascii).mp search
      exact .inr (.inr ⟨parsed.timestamp, content, parsed.signatures, key, bytes, read, found,
        secret, written, meets⟩)
    | false =>
      refine .inl ⟨.noMatch, ?_⟩
      rw [verify_of_parsed found signed, encoded_eq_ok_iff.mpr secret,
        encoded_eq_ok_iff.mpr written]
      simp only [bind, Except.bind, search, mapError_ok, Bool.not_false, if_true]
      rfl

theorem openDelivery_ends (service : WebhookService) (now : Clock) (payload : Payload)
    (header : Text) :
    (∃ flaw, service.openDelivery now payload header = .error (.signature flaw)) ∨
      (∃ flaw, service.ComplainsFirst payload header flaw) ∨
      ∃ timestamp, service.IsMatched payload header timestamp ∧
        (isStale now service.tolerance timestamp = none ∨
          isStale now service.tolerance timestamp = some false) := by
  cases read : payload.text? with
  | none => exact .inr (.inl ⟨_, .undecodable read⟩)
  | some content =>
    rw [openDelivery_of_read read]
    rcases verify_ends read now with ⟨flaw, refused⟩ | complaint | ⟨timestamp, matched⟩
    · rw [refused]
      exact .inl ⟨flaw, rfl⟩
    · exact .inr (.inl complaint)
    · cases stale : isStale now service.tolerance timestamp with
      | none => exact .inr (.inr ⟨timestamp, matched, .inl stale⟩)
      | some old =>
        cases old with
        | true =>
          rw [matched.verify read, stale]
          exact .inl ⟨.stale timestamp, rfl⟩
        | false => exact .inr (.inr ⟨timestamp, matched, .inr stale⟩)

theorem IsMatched.openDelivery_unmeasured (matched : service.IsMatched payload header timestamp)
    (unmeasured : isStale now service.tolerance timestamp = none) :
    service.openDelivery now payload header = .error (.crash .outOfRange) := by
  obtain ⟨content, -, -, -, read, -⟩ := id matched
  rw [openDelivery_of_read read, matched.verify read, unmeasured]
  rfl

theorem IsMatched.openDelivery_fresh (matched : service.IsMatched payload header timestamp)
    (fresh : isStale now service.tolerance timestamp = some false)
    (read : payload.text? = some content) :
    service.openDelivery now payload header = readEvent content := by
  rw [openDelivery_of_read read, matched.verify read, fresh]
  rfl

theorem IsMatched.isAuthentic (matched : service.IsMatched payload header timestamp)
    (fresh : isStale now service.tolerance timestamp = some false) :
    ∃ timestamp, service.IsAuthentic now payload header timestamp := by
  obtain ⟨content, -, -, -, read, -⟩ := id matched
  have verified := matched.verify read now
  rw [fresh] at verified
  exact isAuthentic_of_verify read verified

end

def RefusesContent (service : WebhookService) (now : Clock) (payload : Payload) (header : Text) :
    Prop :=
  ∃ cause, (service.constructEvent now payload header).outcome =
    .error (.api .deserializationError cause)

/-- The signature goes before the content. A delivery that is not authentic is refused for its
signature, and one that is refused for its content is authentic and holds no object. -/
structure SignatureFirst (service : WebhookService) (now : Clock) (payload : Payload)
    (header : Text) : Prop where
  refused : (∀ timestamp, ¬ service.IsAuthentic now payload header timestamp) →
    service.RefusesSignature now payload header
  deserialized : service.RefusesContent now payload header →
    (∃ timestamp, service.IsAuthentic now payload header timestamp) ∧ ¬ payload.IsObject

/-- Deliveries that are refused for the wrong reason, or for none. -/
inductive Misreported (service : WebhookService) (now : Clock) (payload : Payload)
    (header : Text) : Prop where
  | unsigned {flaw : PayloadFlaw} : service.ComplainsFirst payload header flaw →
    (∀ timestamp, ¬ service.IsAuthentic now payload header timestamp) →
    Misreported service now payload header
  | object {flaw : PayloadFlaw} : service.ComplainsFirst payload header flaw → payload.IsObject →
    Misreported service now payload header
  | unmeasured {timestamp : Int} : service.IsMatched payload header timestamp →
    isStale now service.tolerance timestamp = none →
    (∀ timestamp, ¬ service.IsAuthentic now payload header timestamp) →
    Misreported service now payload header
  | unreadable {timestamp : Int} {content : Text} {members : List (Text × Json)} :
    service.IsMatched payload header timestamp →
    isStale now service.tolerance timestamp = some false →
    payload.text? = some content → Json.read content = .ok (.object members) →
    Resource.areReadableMembers .ordinary [] members = false →
    Misreported service now payload header

section

variable {service : WebhookService} {now : Clock} {payload : Payload} {content header : Text}

theorem refusesContent_iff_openDelivery :
    service.RefusesContent now payload header ↔
      ∃ flaw, service.openDelivery now payload header = .error (.payload flaw) := by
  simp only [RefusesContent, constructEvent_outcome, mapError_eq_error]
  constructor
  · rintro ⟨cause, failure, opened, told⟩
    cases failure with
    | payload flaw => exact ⟨flaw, opened⟩
    | signature | crash => cases told
  · rintro ⟨flaw, opened⟩
    exact ⟨_, _, opened, rfl⟩

theorem readEvent_of_unreadable {members : List (Text × Json)}
    (object : Json.read content = .ok (.object members)) :
    (∃ flaw, readEvent content = .error (.payload flaw)) ↔
      Resource.areReadableMembers .ordinary [] members = false := by
  unfold readEvent
  rw [object]
  cases readable : Resource.areReadableMembers .ordinary [] members <;> simp [readable]

theorem Misreported.not_signatureFirst (misreported : service.Misreported now payload header) :
    ¬ service.SignatureFirst now payload header := by
  intro first
  cases misreported with
  | unsigned complaint unsigned =>
    obtain ⟨_, refused⟩ := refusesSignature_iff_openDelivery.mp (first.refused unsigned)
    rw [complaint.openDelivery now] at refused
    cases refused
  | object complaint object =>
    have refused := refusesContent_iff_openDelivery.mpr ⟨_, complaint.openDelivery now⟩
    exact (first.deserialized refused).2 object
  | unmeasured matched unmeasured unsigned =>
    obtain ⟨_, refused⟩ := refusesSignature_iff_openDelivery.mp (first.refused unsigned)
    rw [matched.openDelivery_unmeasured unmeasured] at refused
    cases refused
  | unreadable matched fresh read object unreadable =>
    obtain ⟨flaw, failed⟩ := (readEvent_of_unreadable object).mpr unreadable
    have refused := refusesContent_iff_openDelivery.mpr
      ⟨flaw, (matched.openDelivery_fresh fresh read).trans failed⟩
    exact (first.deserialized refused).2 ⟨_, _, read, object⟩

theorem signatureFirst_of_not_misreported
    (reported : ¬ service.Misreported now payload header) :
    service.SignatureFirst now payload header := by
  constructor
  case refused =>
    intro unsigned
    rcases openDelivery_ends service now payload header with
      refused | ⟨flaw, complaint⟩ | ⟨timestamp, matched, unmeasured | fresh⟩
    · exact refusesSignature_iff_openDelivery.mpr refused
    · exact absurd (.unsigned complaint unsigned) reported
    · exact absurd (.unmeasured matched unmeasured unsigned) reported
    · obtain ⟨_, authentic⟩ := matched.isAuthentic fresh
      exact absurd authentic (unsigned _)
  case deserialized =>
    intro refused
    obtain ⟨flaw, failed⟩ := refusesContent_iff_openDelivery.mp refused
    rcases openDelivery_ends service now payload header with
      ⟨_, other⟩ | ⟨flaw, complaint⟩ | ⟨timestamp, matched, unmeasured | fresh⟩
    · rw [other] at failed
      cases failed
    · refine ⟨?_, fun object => reported (.object complaint object)⟩
      by_contra unsigned
      exact reported (.unsigned complaint (not_exists.mp unsigned))
    · rw [matched.openDelivery_unmeasured unmeasured] at failed
      cases failed
    · refine ⟨matched.isAuthentic fresh, ?_⟩
      rintro ⟨content, members, read, object⟩
      rw [matched.openDelivery_fresh fresh read] at failed
      have unreadable := (readEvent_of_unreadable object).mp ⟨flaw, failed⟩
      exact reported (.unreadable matched fresh read object unreadable)

end

/-- The signature goes before the content, but for deliveries that are complained about first, that
the clock cannot measure, or that hold an object which is not readable. -/
theorem signature_before_content (service : WebhookService) (now : Clock) (payload : Payload)
    (header : Text) :
    service.SignatureFirst now payload header ↔ ¬ service.Misreported now payload header :=
  ⟨fun first misreported => misreported.not_signatureFirst first,
    signatureFirst_of_not_misreported⟩

def emptyObject : Payload := .text (Text.lit "\x7b\x7d")

def accentedHeader : Text := Text.lit "t=1700000000,v1=\u00e9"

theorem not_isAuthentic_accentedHeader (service : WebhookService) (now : Clock) (payload : Payload)
    (timestamp : Int) : ¬ service.IsAuthentic now payload accentedHeader timestamp := by
  rintro ⟨-, ⟨key, bytes, -, -, member⟩, -⟩
  have items : headerItems accentedHeader = [(Text.lit "t", some (Text.lit "1700000000")),
      (Text.lit "v1", some (Text.lit "\u00e9"))] := by decide
  have names : Text.lit "v1" ≠ Text.lit "t" := by decide
  simp only [items, List.mem_cons, Prod.mk.injEq, names, false_and, Option.some.injEq, true_and,
    List.not_mem_nil, or_false, false_or] at member
  have ascii : (signatureOf key timestamp bytes).isAscii = true := isAscii_signatureOf ..
  rw [signatureOf, signedBytes, member] at ascii
  revert ascii
  decide

/-- With a signature that is not ASCII, anyone gets an empty object refused for its content. -/
theorem accented_signature_refused_for_content :
    ¬ plainService.SignatureFirst (.whole 1700000000) emptyObject accentedHeader ∧
      plainService.RefusesContent (.whole 1700000000) emptyObject accentedHeader ∧
      (∀ timestamp, ¬ plainService.IsAuthentic (.whole 1700000000) emptyObject accentedHeader
        timestamp) ∧ emptyObject.IsObject := by
  have unsigned := not_isAuthentic_accentedHeader plainService (.whole 1700000000) emptyObject
  have found : SignatureHeader.parse? accentedHeader =
      some ⟨1700000000, [Text.lit "\u00e9"]⟩ := by
    rfl
  have complaint : plainService.ComplainsFirst emptyObject accentedHeader .incomparableSignature :=
    .incomparable rfl found rfl rfl ⟨[], _, [], rfl, by decide, nofun⟩
  refine ⟨Misreported.not_signatureFirst (.unsigned complaint unsigned), ?_, unsigned,
    _, [], rfl, rfl⟩
  exact refusesContent_iff_openDelivery.mpr ⟨_, complaint.openDelivery _⟩

end WebhookService

end Tollgate
