import Tollgate.Proofs.Webhook.Binding
import Tollgate.Proofs.Webhook.Tolerance

namespace Tollgate

namespace Webhook

def IsReadable (timestamp : Int) : Prop := timestamp.natAbs < 10 ^ Integer.digitLimit

theorem parse?_signatureHeader_of_long {timestamp : Int} (key bytes : Bytes)
    (long : ¬ IsReadable timestamp) :
    SignatureHeader.parse? (signatureHeader key timestamp bytes) = none := by
  have names : Text.lit "v1" ≠ Text.lit "t" := by decide
  rw [Option.eq_none_iff_forall_ne_some]
  intro parsed found
  obtain ⟨timestamps, value, stamps, first, read, -⟩ := parse?_eq_some_iff.mp found
  rw [headerItems_signatureHeader] at stamps
  have single : timestamps = [Integer.decimal timestamp] := by
    simpa [valuesOf, names] using stamps.symm
  rw [single] at first
  cases first
  rw [Integer.parse?_decimal_of_long (Nat.not_lt.mp long)] at read
  cases read

theorem isStale_eq_isBefore? {now : Clock} {tolerance timestamp : Int} (positive : 0 < tolerance) :
    isStale now (some tolerance) timestamp = now.time.isBefore? tolerance timestamp := by
  unfold isStale
  split
  · contradiction
  · rename_i zero
    cases zero
    exact absurd positive (by decide)
  · rename_i same
    cases same
    rfl

end Webhook

namespace WebhookService

open Webhook

/-- The delivery passes the check of its signature under a tolerance, whatever its content is. -/
def Takes (secret : Text) (tolerance : Int) (now : Clock) (payload : Payload) (header : Text) :
    Prop :=
  ∃ content, payload.text? = some content ∧
    verify ⟨secret, some tolerance⟩ now content header = .ok ()

/-- The clock and the tolerance cannot be compared, which ends the delivery. -/
def Overflows (secret : Text) (tolerance : Int) (now : Clock) (payload : Payload)
    (header : Text) : Prop :=
  (constructEvent ⟨secret, some tolerance⟩ now payload header).outcome = .error (.crash .outOfRange)

section

variable {secret : Text} {key bytes : Bytes} {payload : Payload} {timestamp tolerance wider : Int}
  {now later : Clock} {q : ℚ}

theorem takes_iff (encoded : Utf8.encode secret = some key) (spells : payload.Spells bytes) :
    Takes secret tolerance now payload (signatureHeader key timestamp bytes) ↔
      IsReadable timestamp ∧ isStale now (some tolerance) timestamp = some false := by
  obtain ⟨content, read, written⟩ := spells
  simp only [Takes, read, Option.some.injEq, exists_eq_left']
  by_cases short : IsReadable timestamp
  · have verified : verify ⟨secret, some tolerance⟩ now content
        (signatureHeader key timestamp bytes) = _ :=
      verify_signatureHeader now encoded short written
    rw [verified, if_pos rfl]
    simp only [short, true_and]
    cases isStale now (some tolerance) timestamp with
    | none => simp
    | some stale => cases stale <;> simp
  · simp only [short, false_and, iff_false]
    unfold verify
    rw [parse?_signatureHeader_of_long key bytes short]
    exact nofun

theorem refuses_of_not_takes (encoded : Utf8.encode secret = some key)
    (spells : payload.Spells bytes)
    (refused : ¬ Takes secret tolerance now payload (signatureHeader key timestamp bytes)) :
    RefusesSignature ⟨secret, some tolerance⟩ now payload (signatureHeader key timestamp bytes) ∨
      isStale now (some tolerance) timestamp = none ∧
        Overflows secret tolerance now payload (signatureHeader key timestamp bytes) := by
  rw [takes_iff encoded spells] at refused
  obtain ⟨content, read, written⟩ := spells
  rw [refusesSignature_iff read]
  by_cases short : IsReadable timestamp
  · have verified : verify ⟨secret, some tolerance⟩ now content
        (signatureHeader key timestamp bytes) = _ :=
      verify_signatureHeader now encoded short written
    rw [if_pos rfl] at verified
    cases stale : isStale now (some tolerance) timestamp with
    | none =>
      simp only [stale] at verified
      refine .inr ⟨rfl, ?_⟩
      rw [Overflows, constructEvent_outcome, openDelivery_of_read read, verified]
      rfl
    | some old =>
      cases old with
      | true =>
        simp only [stale] at verified
        exact .inl ⟨_, verified⟩
      | false => exact absurd ⟨short, stale⟩ refused
  · refine .inl ⟨.unreadableHeader, ?_⟩
    unfold verify
    rw [parse?_signatureHeader_of_long key bytes short]
    rfl

theorem takes_iff_allows (encoded : Utf8.encode secret = some key) (spells : payload.Spells bytes)
    (positive : 0 < tolerance) :
    Takes secret tolerance now payload (signatureHeader key timestamp bytes) ↔
      IsReadable timestamp ∧ now.time.Measures tolerance ∧ now.time.Allows tolerance timestamp := by
  rw [takes_iff encoded spells, isStale_eq_isBefore? positive, Seconds.isBefore?_eq_some_iff]
  simp

end

/-- When a delivery with its own header is taken. A tolerance of zero sets no bound. A positive one
does if it can be taken from the clock; the bound is the time less the tolerance, as the clock
computes it, and the exact one where nothing is rounded. -/
structure ReplayWindow (secret : Text) (payload : Payload) (header : Text) (timestamp : Int) :
    Prop where
  unbounded : ∀ now, Takes secret 0 now payload header ↔ IsReadable timestamp
  bounded : ∀ (tolerance : Int) (now : Clock), 0 < tolerance →
    (Takes secret tolerance now payload header ↔
      IsReadable timestamp ∧ now.time.Measures tolerance ∧ now.time.Allows tolerance timestamp)
  unrounded : ∀ (tolerance : Int) (now : Clock) (q : ℚ),
    0 < tolerance → now.time.IsExact tolerance →
    now.time.seconds? = some q →
    (Takes secret tolerance now payload header ↔ IsReadable timestamp ∧ q - tolerance ≤ timestamp)
  refused : ∀ (tolerance : Int) (now : Clock), 0 ≤ tolerance →
    ¬ Takes secret tolerance now payload header →
    RefusesSignature ⟨secret, some tolerance⟩ now payload header ∨
      0 < tolerance ∧ ¬ now.time.Measures tolerance ∧ Overflows secret tolerance now payload header
  expires : ∀ (tolerance : Int) (now later : Clock), 0 ≤ tolerance → now.time ≤ later.time →
    now.time.SameKind later.time → Takes secret tolerance later payload header →
    Takes secret tolerance now payload header
  stops : ∀ (tolerance : Int) (now later : Clock) (q : ℚ),
    0 < tolerance → now.time.IsExact tolerance →
    now.time.seconds? = some q → timestamp + tolerance < q →
    now.time ≤ later.time → now.time.SameKind later.time →
    ¬ Takes secret tolerance later payload header
  widens : ∀ (tolerance wider : Int) (now : Clock), 0 < tolerance → tolerance ≤ wider →
    now.time.Measures wider → Takes secret tolerance now payload header →
    Takes secret wider now payload header

section

variable {secret : Text} {key bytes : Bytes} {payload : Payload} {timestamp tolerance : Int}
  {now later : Clock}

theorem isStale_eq_none (nonneg : 0 ≤ tolerance)
    (unknown : isStale now (some tolerance) timestamp = none) :
    0 < tolerance ∧ ¬ now.time.Measures tolerance := by
  rcases nonneg.eq_or_lt with rfl | positive
  · cases unknown
  refine ⟨positive, fun measures => ?_⟩
  rw [isStale_eq_isBefore? positive] at unknown
  by_cases allows : now.time.Allows tolerance timestamp
  · have known : now.time.isBefore? tolerance timestamp = some false :=
      Seconds.isBefore?_eq_some_iff.mpr ⟨measures, by simp [allows]⟩
    cases known.symm.trans unknown
  · have known : now.time.isBefore? tolerance timestamp = some true :=
      Seconds.isBefore?_eq_some_iff.mpr ⟨measures, by simp [allows]⟩
    cases known.symm.trans unknown

theorem Takes.of_later (encoded : Utf8.encode secret = some key) (spells : payload.Spells bytes)
    (nonneg : 0 ≤ tolerance) (order : now.time ≤ later.time) (kind : now.time.SameKind later.time)
    (taken : Takes secret tolerance later payload (signatureHeader key timestamp bytes)) :
    Takes secret tolerance now payload (signatureHeader key timestamp bytes) := by
  rcases nonneg.eq_or_lt with rfl | positive
  · exact (takes_iff encoded spells).mpr ((takes_iff encoded spells).mp taken)
  · rw [takes_iff_allows encoded spells positive] at taken ⊢
    obtain ⟨short, measures, allowed⟩ := taken
    have also := kind.measures measures
    exact ⟨short, also, allowed.of_later order kind also⟩

end

/-- A delivery is taken within the tolerance, not again once it was refused for its age, and under
every greater tolerance as well. -/
theorem replay_window {secret : Text} {key bytes : Bytes} {payload : Payload} (timestamp : Int)
    (encoded : Utf8.encode secret = some key) (spells : payload.Spells bytes) :
    ReplayWindow secret payload (signatureHeader key timestamp bytes) timestamp := by
  have bounded (tolerance : Int) (now : Clock) (positive : 0 < tolerance) :
      Takes secret tolerance now payload (signatureHeader key timestamp bytes) ↔
        IsReadable timestamp ∧ now.time.Measures tolerance ∧ now.time.Allows tolerance timestamp :=
    takes_iff_allows encoded spells positive
  have unrounded (tolerance : Int) (now : Clock) (q : ℚ) (positive : 0 < tolerance)
      (exact : now.time.IsExact tolerance) (value : now.time.seconds? = some q) :
      Takes secret tolerance now payload (signatureHeader key timestamp bytes) ↔
        IsReadable timestamp ∧ q - tolerance ≤ timestamp := by
    obtain ⟨measures, allows⟩ := Seconds.allows_iff_of_exact timestamp positive exact value
    rw [bounded tolerance now positive, allows]
    simp only [measures, true_and]
  constructor
  case bounded => exact bounded
  case unrounded => exact unrounded
  case unbounded =>
    intro now
    rw [takes_iff encoded spells]
    exact and_iff_left rfl
  case refused =>
    intro tolerance now nonneg refused
    rcases refuses_of_not_takes encoded spells refused with refuses | ⟨unknown, overflows⟩
    · exact .inl refuses
    · obtain ⟨positive, unmeasured⟩ := isStale_eq_none nonneg unknown
      exact .inr ⟨positive, unmeasured, overflows⟩
  case expires =>
    intro tolerance now later nonneg order kind taken
    exact taken.of_later encoded spells nonneg order kind
  case stops =>
    intro tolerance now later q positive isExact value past order kind taken
    -- what is taken later was taken at the clock that is already past the bound
    have before := taken.of_later encoded spells positive.le order kind
    have inTime := ((unrounded tolerance now q positive isExact value).mp before).2
    linarith
  case widens =>
    intro tolerance wider now positive less measures taken
    rw [bounded tolerance now positive] at taken
    obtain ⟨short, measured, allowed⟩ := taken
    exact (bounded wider now (positive.trans_le less)).mpr
      ⟨short, measures, allowed.of_le less measured measures⟩

theorem isReadable_of_lt {timestamp : Int} (few : timestamp.natAbs < 10 ^ 4) :
    IsReadable timestamp :=
  few.trans_le (Nat.pow_le_pow_right (by decide) (by decide))

theorem plainService_replay_window :
    ∃ key, Utf8.encode plainService.secret = some key ∧
      (Payload.bytes [0x7B, 0x7D]).Spells [0x7B, 0x7D] ∧
      Takes plainService.secret 300 (.whole 1300) (.bytes [0x7B, 0x7D])
        (signatureHeader key 1000 [0x7B, 0x7D]) ∧
      ¬ Takes plainService.secret 300 (.whole 1301) (.bytes [0x7B, 0x7D])
        (signatureHeader key 1000 [0x7B, 0x7D]) ∧
      Takes plainService.secret 301 (.whole 1301) (.bytes [0x7B, 0x7D])
        (signatureHeader key 1000 [0x7B, 0x7D]) := by
  have spells : (Payload.bytes [0x7B, 0x7D]).Spells [0x7B, 0x7D] := ⟨_, rfl, rfl⟩
  have encoded : Utf8.encode plainService.secret = some plainService.secret.lowBytes := rfl
  have window := replay_window 1000 encoded spells
  have short : IsReadable 1000 := isReadable_of_lt (by decide)
  have taken (tolerance n : Int) (positive : 0 < tolerance) :=
    window.unrounded tolerance (.whole n) n positive trivial rfl
  refine ⟨_, encoded, spells, ?_, ?_, ?_⟩
  · exact (taken 300 1300 (by decide)).mpr ⟨short, by norm_num⟩
  · exact fun late => absurd ((taken 300 1301 (by decide)).mp late).2 (by norm_num)
  · exact (taken 301 1301 (by decide)).mpr ⟨short, by norm_num⟩

/-- The bound is not the time less the tolerance in every case. A tolerance of zero sets none, so
that a greater one can refuse what it takes; and close after the epoch, a 64-bit clock has no room
for the difference from five minutes before. -/
theorem replay_window_not_exact :
    ∃ key, Utf8.encode plainService.secret = some key ∧
      (Takes plainService.secret 0 (.whole 1301) (.bytes [0x7B, 0x7D])
          (signatureHeader key 1000 [0x7B, 0x7D]) ∧ ¬ (1301 - 0 : Int) ≤ 1000) ∧
      ¬ Takes plainService.secret 300 (.whole 1301) (.bytes [0x7B, 0x7D])
          (signatureHeader key 1000 [0x7B, 0x7D]) ∧
      (Takes plainService.secret 300 (.binary (.finite false (2 ^ 52) (-112))) (.bytes [0x7B, 0x7D])
          (signatureHeader key (-300) [0x7B, 0x7D]) ∧ ¬ (2 ^ (-60 : Int) - 300 : ℚ) ≤ -300) := by
  have spells : (Payload.bytes [0x7B, 0x7D]).Spells [0x7B, 0x7D] := ⟨_, rfl, rfl⟩
  have encoded : Utf8.encode plainService.secret = some plainService.secret.lowBytes := rfl
  have short : IsReadable 1000 := isReadable_of_lt (by decide)
  have shortBefore : IsReadable (-300) := isReadable_of_lt (by decide)
  refine ⟨_, encoded, ⟨?_, by decide⟩, ?_, ?_, ?_⟩
  · exact (takes_iff encoded spells).mpr ⟨short, rfl⟩
  · intro taken
    have fresh := ((takes_iff encoded spells).mp taken).2
    revert fresh
    decide
  · exact (takes_iff encoded spells).mpr ⟨shortBefore, by decide +kernel⟩
  · norm_num

end WebhookService

end Tollgate
