import Tollgate.Proofs.Codec.Hex
import Tollgate.Proofs.Number.Decimal
import Tollgate.Proofs.Text.Cut
import Tollgate.Proofs.Text.Split
import Tollgate.Proofs.Webhook.Authenticity

namespace Tollgate

theorem Text.lowBytes_injective {s t : Text} (left : s.isAscii = true) (right : t.isAscii = true)
    (same : s.lowBytes = t.lowBytes) : s = t := by
  have read := Utf8.decode_of_encode (Utf8.encode_lowBytes left)
  rw [same, Utf8.decode_of_encode (Utf8.encode_lowBytes right)] at read
  exact (Option.some.inj read).symm

namespace Webhook

theorem not_mem_decimal {mark : CodePoint} (n : Int)
    (outside : mark.val ≠ 0x2D ∧ (mark.val < 0x30 ∨ 0x39 < mark.val)) :
    mark ∉ Integer.decimal n := by
  intro member
  have range := Integer.val_of_mem_decimal member
  omega

theorem point_not_mem_decimal (n : Int) : (0x2E : UInt8) ∉ (Integer.decimal n).lowBytes := by
  intro member
  obtain ⟨c, digit, same⟩ := List.mem_map.mp member
  have range := Integer.val_of_mem_decimal digit
  have value : (UInt8.ofNat c.val).toNat = 0x2E := congrArg UInt8.toNat same
  rw [Utf8.toNat_ofNat (by omega)] at value
  omega

theorem eq_of_signedBytes {timestamp other : Int} {payload content : Bytes}
    (same : signedBytes timestamp payload = signedBytes other content) :
    timestamp = other ∧ payload = content := by
  have cut := congrArg (cutFirst? 0x2E) same
  unfold signedBytes at cut
  rw [cutFirst?_append (point_not_mem_decimal timestamp),
    cutFirst?_append (point_not_mem_decimal other)] at cut
  obtain ⟨digits, rest⟩ := Prod.mk.inj (Option.some.inj cut)
  have spelled := Text.lowBytes_injective (Integer.isAscii_decimal timestamp)
    (Integer.isAscii_decimal other) digits
  exact ⟨Integer.decimal_injective spelled, rest⟩

theorem itemOf_pair {name value : Text} (nameFresh : CodePoint.ofChar '=' ∉ name)
    (valueFresh : CodePoint.ofChar '=' ∉ value) :
    itemOf (name ++ CodePoint.ofChar '=' :: value) = (name, some value) := by
  unfold itemOf
  rw [Text.splitOn_append nameFresh, Text.splitOn_of_not_mem valueFresh]
  rfl

section

variable {key : Bytes} {timestamp : Int} {bytes other : Bytes}

theorem isAscii_signatureOf (key : Bytes) (timestamp : Int) (bytes : Bytes) :
    (signatureOf key timestamp bytes).isAscii = true :=
  List.all_eq_true.mpr fun _ member => (Hex.isDigit_of_mem_encode member).isAscii

theorem mark_not_mem_signatureOf (key : Bytes) (timestamp : Int) (bytes : Bytes) :
    CodePoint.ofChar ',' ∉ signatureOf key timestamp bytes ∧
      CodePoint.ofChar '=' ∉ signatureOf key timestamp bytes :=
  ⟨fun member => (Hex.isDigit_of_mem_encode member).ne_mark.1 rfl,
    fun member => (Hex.isDigit_of_mem_encode member).ne_mark.2 rfl⟩

theorem headerItems_signatureHeader (key : Bytes) (timestamp : Int) (bytes : Bytes) :
    headerItems (signatureHeader key timestamp bytes) =
      [(Text.lit "t", some (Integer.decimal timestamp)),
        (Text.lit "v1", some (signatureOf key timestamp bytes))] := by
  have stampItem : itemOf (Text.lit "t" ++ CodePoint.ofChar '=' :: Integer.decimal timestamp) =
      (Text.lit "t", some (Integer.decimal timestamp)) :=
    itemOf_pair (by decide) (not_mem_decimal timestamp (by decide))
  have noMark := mark_not_mem_signatureOf key timestamp bytes
  have signatureItem : itemOf (Text.lit "v1" ++ CodePoint.ofChar '=' ::
      signatureOf key timestamp bytes) =
      (Text.lit "v1", some (signatureOf key timestamp bytes)) :=
    itemOf_pair (by decide) noMark.2
  have stampFresh : CodePoint.ofChar ',' ∉
      Text.lit "t" ++ CodePoint.ofChar '=' :: Integer.decimal timestamp := by
    have noComma : CodePoint.ofChar ',' ∉ Integer.decimal timestamp :=
      not_mem_decimal timestamp (by decide)
    simp only [List.mem_append, List.mem_cons, noComma, or_false]
    decide
  have signatureFresh : CodePoint.ofChar ',' ∉
      Text.lit "v1" ++ CodePoint.ofChar '=' :: signatureOf key timestamp bytes := by
    simp only [List.mem_append, List.mem_cons, noMark.1, or_false]
    decide
  have shape : signatureHeader key timestamp bytes =
      (Text.lit "t" ++ CodePoint.ofChar '=' :: Integer.decimal timestamp) ++
        CodePoint.ofChar ',' ::
          (Text.lit "v1" ++ CodePoint.ofChar '=' :: signatureOf key timestamp bytes) := by
    simp [signatureHeader, Text.lit]
  rw [headerItems, shape, Text.splitOn_append stampFresh, Text.splitOn_of_not_mem signatureFresh]
  simp only [List.map_cons, List.map_nil, stampItem, signatureItem]

theorem parse?_signatureHeader (key : Bytes) (bytes : Bytes)
    (short : timestamp.natAbs < 10 ^ Integer.digitLimit) :
    SignatureHeader.parse? (signatureHeader key timestamp bytes) =
      some ⟨timestamp, [signatureOf key timestamp bytes]⟩ := by
  have names : Text.lit "v1" ≠ Text.lit "t" := by decide
  rw [parse?_eq_some_iff, headerItems_signatureHeader]
  refine ⟨[Integer.decimal timestamp], Integer.decimal timestamp, ?_, rfl,
    Integer.parse?_decimal short, ?_⟩
  · simp [valuesOf, names]
  · simp [valuesOf, names.symm]

theorem findSignature_single {expected signature : Text} (ascii : signature.isAscii = true) :
    findSignature expected [signature] = .ok (decide (signature = expected)) := by
  simp only [findSignature, ascii, Bool.not_true, Bool.false_eq_true, if_false]
  by_cases same : signature = expected
  · simp [same]
  · simp [same]

theorem isStale_of_allows {now : Clock} {tolerance : Option Int}
    (recent : ∀ seconds, tolerance = some seconds → seconds ≠ 0 →
      now.time.Allows seconds timestamp) :
    isStale now tolerance timestamp ≠ some true := by
  intro stale
  unfold isStale at stale
  split at stale
  · cases stale
  · cases stale
  · rename_i seconds nonzero
    have allowed := recent seconds rfl nonzero
    cases (Seconds.isBefore?_eq_some_iff.mp stale).2.mpr allowed

end

end Webhook

def Payload.Spells (payload : Payload) (bytes : Bytes) : Prop :=
  ∃ content, payload.text? = some content ∧ Utf8.encode content = some bytes

namespace WebhookService

open Webhook

def RefusesSignature (service : WebhookService) (now : Clock) (payload : Payload)
    (header : Text) : Prop :=
  ∃ cause, (service.constructEvent now payload header).outcome =
    .error (.api .signatureVerificationError cause)

section

variable {service : WebhookService} {now : Clock} {payload : Payload} {content header : Text}
  {key bytes other : Bytes} {timestamp : Int}

theorem readEvent_error {failure : Failure} (failed : readEvent content = .error failure) :
    ∃ flaw, failure = .payload flaw := by
  unfold readEvent at failed
  split at failed
  case h_3 =>
    split at failed
    · cases failed
    · cases failed
      exact ⟨_, rfl⟩
  all_goals
    cases failed
    exact ⟨_, rfl⟩

theorem refusesSignature_iff_openDelivery :
    service.RefusesSignature now payload header ↔
      ∃ flaw, service.openDelivery now payload header = .error (.signature flaw) := by
  simp only [RefusesSignature, constructEvent_outcome, mapError_eq_error]
  constructor
  · rintro ⟨cause, failure, opened, told⟩
    cases failure with
    | signature flaw => exact ⟨flaw, opened⟩
    | payload | crash => cases told
  · rintro ⟨flaw, opened⟩
    exact ⟨_, _, opened, rfl⟩

theorem refusesSignature_iff (read : payload.text? = some content) :
    service.RefusesSignature now payload header ↔
      ∃ flaw, service.verify now content header = .error (.signature flaw) := by
  rw [refusesSignature_iff_openDelivery, openDelivery_of_read read]
  simp only [bind, Except.bind]
  cases verified : service.verify now content header with
  | error failure => simp
  | ok =>
    refine iff_of_false ?_ (by simp)
    rintro ⟨flaw, failed⟩
    obtain ⟨_, same⟩ := readEvent_error failed
    cases same

theorem verify_signatureHeader (now : Clock) (secret : Utf8.encode service.secret = some key)
    (short : timestamp.natAbs < 10 ^ Integer.digitLimit)
    (written : Utf8.encode content = some other) :
    service.verify now content (signatureHeader key timestamp bytes) =
      if signatureOf key timestamp bytes = signatureOf key timestamp other then
        match isStale now service.tolerance timestamp with
        | none => .error (.crash .outOfRange)
        | some true => .error (.signature (.stale timestamp))
        | some false => .ok ()
      else .error (.signature .noMatch) := by
  have search : findSignature (signatureOf key timestamp other)
      [signatureOf key timestamp bytes] = .ok (decide _) :=
    findSignature_single (isAscii_signatureOf key timestamp bytes)
  rw [verify_of_parsed (parse?_signatureHeader key bytes short) (List.cons_ne_nil _ _),
    encoded_eq_ok_iff.mpr secret, encoded_eq_ok_iff.mpr written]
  simp only [bind, Except.bind, search, mapError_ok]
  by_cases same : signatureOf key timestamp bytes = signatureOf key timestamp other
  · simp [same]
    rfl
  · simp [same]
    rfl

theorem openDelivery_of_signed (secret : Utf8.encode service.secret = some key)
    (short : timestamp.natAbs < 10 ^ Integer.digitLimit) (read : payload.text? = some content)
    (written : Utf8.encode content = some bytes)
    (fresh : isStale now service.tolerance timestamp = some false) :
    service.openDelivery now payload (signatureHeader key timestamp bytes) = readEvent content := by
  have verified : service.verify now content (signatureHeader key timestamp bytes) = .ok () := by
    rw [verify_signatureHeader now secret short written, if_pos rfl, fresh]
  rw [openDelivery_of_read read, verified]
  rfl

theorem not_refusesSignature (secret : Utf8.encode service.secret = some key)
    (short : timestamp.natAbs < 10 ^ Integer.digitLimit) (spells : payload.Spells bytes)
    (recent : ∀ seconds, service.tolerance = some seconds → seconds ≠ 0 →
      now.time.Allows seconds timestamp) :
    ¬ service.RefusesSignature now payload (signatureHeader key timestamp bytes) := by
  obtain ⟨content, read, written⟩ := spells
  have fresh := isStale_of_allows recent
  rw [refusesSignature_iff read, verify_signatureHeader now secret short written, if_pos rfl]
  rintro ⟨flaw, refused⟩
  split at refused
  · cases refused
  · rename_i stale
    exact fresh stale
  · cases refused

/-- On a clock that needs no rounding, the header is good for its payload while the timestamp lies
no further back than the tolerance. -/
theorem not_refusesSignature_of_exact {tolerance : Int} {q : ℚ}
    (secret : Utf8.encode service.secret = some key)
    (short : timestamp.natAbs < 10 ^ Integer.digitLimit) (spells : payload.Spells bytes)
    (bounded : service.tolerance = some tolerance) (positive : 0 < tolerance)
    (exact : now.time.IsExact tolerance) (value : now.time.seconds? = some q)
    (recent : q - tolerance ≤ timestamp) :
    ¬ service.RefusesSignature now payload (signatureHeader key timestamp bytes) := by
  refine not_refusesSignature secret short spells fun seconds same _ => ?_
  cases bounded.symm.trans same
  exact (Seconds.allows_iff_of_exact timestamp positive exact value).2.mpr recent

theorem hmac_of_not_refusesSignature (secret : Utf8.encode service.secret = some key)
    (short : timestamp.natAbs < 10 ^ Integer.digitLimit) (spells : payload.Spells other)
    (taken : ¬ service.RefusesSignature now payload (signatureHeader key timestamp bytes)) :
    Digest.sha256.hmac key (signedBytes timestamp bytes) =
      Digest.sha256.hmac key (signedBytes timestamp other) := by
  obtain ⟨content, read, written⟩ := spells
  rw [refusesSignature_iff read, verify_signatureHeader now secret short written] at taken
  split at taken
  · rename_i same
    exact Hex.encode_injective same
  · exact absurd ⟨_, rfl⟩ taken

end

/-- What the header for a payload is good for. The payload itself is not refused with it and is
opened, as long as the timestamp is recent. Another payload is taken only if it has the same keyed
digest. -/
structure Binds (service : WebhookService) (key : Bytes) (timestamp : Int) (bytes : Bytes) :
    Prop where
  accepted : ∀ now payload, payload.Spells bytes →
    (∀ seconds, service.tolerance = some seconds → seconds ≠ 0 →
      now.time.Allows seconds timestamp) →
    ¬ service.RefusesSignature now payload (signatureHeader key timestamp bytes)
  opened : ∀ now payload content, payload.text? = some content →
    Utf8.encode content = some bytes → isStale now service.tolerance timestamp = some false →
    service.openDelivery now payload (signatureHeader key timestamp bytes) = readEvent content
  collides : ∀ now payload other, payload.Spells other → other ≠ bytes →
    ¬ service.RefusesSignature now payload (signatureHeader key timestamp bytes) →
    signedBytes timestamp bytes ≠ signedBytes timestamp other ∧
      Digest.sha256.hmac key (signedBytes timestamp bytes) =
        Digest.sha256.hmac key (signedBytes timestamp other)

/-- Sender and service agree on signatures, and a signature is good for one payload, unless two
different messages have the same keyed digest. -/
theorem signature_binds_payload (service : WebhookService) (timestamp : Int) (bytes : Bytes)
    (scalar : service.secret.hasSurrogate = false)
    (short : timestamp.natAbs < 10 ^ Integer.digitLimit) :
    (∃ key, Utf8.encode service.secret = some key ∧ service.Binds key timestamp bytes) ∧
      ∀ first second payload other, signedBytes first payload = signedBytes second other →
        first = second ∧ payload = other := by
  obtain ⟨key, secret⟩ := Utf8.exists_encode scalar
  refine ⟨⟨key, secret, ?_⟩, fun _ _ _ _ same => eq_of_signedBytes same⟩
  constructor
  case accepted =>
    intro now payload spells recent
    exact not_refusesSignature secret short spells recent
  case opened =>
    intro now payload content read written fresh
    exact openDelivery_of_signed secret short read written fresh
  case collides =>
    intro now payload other spells different taken
    refine ⟨fun same => ?_, hmac_of_not_refusesSignature secret short spells taken⟩
    exact different (eq_of_signedBytes same).2.symm

theorem plainService_binds :
    plainService.secret.hasSurrogate = false ∧ (-5 : Int).natAbs < 10 ^ Integer.digitLimit ∧
      ∃ key, Utf8.encode plainService.secret = some key ∧
        ¬ plainService.RefusesSignature (.whole 0) (.bytes [0x7B, 0x7D])
          (signatureHeader key (-5) [0x7B, 0x7D]) ∧
        plainService.RefusesSignature (.whole 0) (.bytes [0x5B, 0x5D])
          (signatureHeader key (-5) [0x7B, 0x7D]) := by
  have scalar : plainService.secret.hasSurrogate = false := by decide
  have short : (-5 : Int).natAbs < 10 ^ Integer.digitLimit := by decide +kernel
  obtain ⟨⟨key, secret, binds⟩, -⟩ :=
    signature_binds_payload plainService (-5) [0x7B, 0x7D] scalar short
  have recent (seconds : Int) (bounded : plainService.tolerance = some seconds) (_ : seconds ≠ 0) :
      (Clock.whole 0).time.Allows seconds (-5) := by
    cases bounded
    show (0 : Int) - 300 ≤ -5
    decide
  refine ⟨scalar, short, key, secret, binds.accepted _ _ ⟨_, rfl, rfl⟩ recent, ?_⟩
  by_contra taken
  have collision := (binds.collides _ _ [0x5B, 0x5D] ⟨_, rfl, rfl⟩ (by decide) taken).2
  cases secret
  revert collision
  decide +kernel

end WebhookService

end Tollgate
