import Tollgate.Proofs.Text.Cut
import Tollgate.Proofs.Trace
import Tollgate.Token.Compact

namespace Tollgate.Token

/-- The bytes are the UTF-8 form of a JSON text of this object. -/
def Holds (bytes : Bytes) (members : Members) : Prop :=
  ∃ content, Utf8.decode bytes = some content ∧ Json.read content = .ok (.object members)

/-- The token is a header, a payload and a signature in base64, with dots between them: no dot
stands before the first of the two, and none after the second. -/
def Spells (token : Bytes) (compact : Compact) : Prop :=
  ∃ header payload signature : Bytes,
    token = compact.signed ++ dot :: signature ∧ dot ∉ signature ∧
    compact.signed = header ++ dot :: payload ∧ dot ∉ header ∧
    (∃ bytes, Base64.decode header = some bytes ∧ Holds bytes compact.header) ∧
    Base64.decode payload = some compact.payload ∧
    Base64.decode signature = some compact.signature

theorem readObject_ok_iff {unreadable notObject : TokenFlaw} {bytes : Bytes} {members : Members} :
    readObject unreadable notObject bytes = .ok members ↔ Holds bytes members := by
  unfold readObject Holds
  cases Utf8.decode bytes with
  | none => simp
  | some content =>
    simp only [Option.map_some, Option.some.injEq, exists_eq_left']
    cases Json.read content with
    | error flaw => simp
    | ok value => cases value <;> simp

theorem segments?_eq_some_iff {token signed header payload signature : Bytes} :
    segments? token = some (signed, header, payload, signature) ↔
      token = signed ++ dot :: signature ∧ dot ∉ signature ∧
        signed = header ++ dot :: payload ∧ dot ∉ header := by
  simp only [segments?, Option.bind_eq_bind, Option.bind_eq_some_iff, Prod.exists,
    cutLast?_eq_some_iff, cutFirst?_eq_some_iff, Option.pure_def, Option.some.injEq,
    Prod.mk.injEq]
  constructor
  · rintro ⟨_, _, ⟨shape, last⟩, _, _, ⟨cut, first⟩, rfl, rfl, rfl, rfl⟩
    exact ⟨shape, last, cut, first⟩
  · rintro ⟨shape, last, cut, first⟩
    exact ⟨_, _, ⟨shape, last⟩, _, _, ⟨cut, first⟩, rfl, rfl, rfl, rfl⟩

theorem Compact.parse_ok_iff {token : Bytes} {compact : Compact} :
    Compact.parse token = .ok compact ↔ Spells token compact := by
  constructor
  · intro parsed
    unfold Compact.parse at parsed
    cases cut : segments? token with
    | none => simp [cut, throw, throwThe, MonadExceptOf.throw] at parsed
    | some parts =>
      obtain ⟨signed, header, payload, signature⟩ := parts
      cases first : Base64.decode header with
      | none => simp [cut, first, throw, throwThe, MonadExceptOf.throw] at parsed
      | some bytes =>
        simp only [cut, first] at parsed
        obtain ⟨members, object, parsed⟩ := bind_eq_ok.mp parsed
        cases second : Base64.decode payload with
        | none => simp [second, throw, throwThe, MonadExceptOf.throw] at parsed
        | some content =>
          cases third : Base64.decode signature with
          | none => simp [second, third, throw, throwThe, MonadExceptOf.throw] at parsed
          | some mac =>
            simp only [second, third, pure, Except.pure, Except.ok.injEq] at parsed
            subst parsed
            obtain ⟨shape, last, inner, fresh⟩ := segments?_eq_some_iff.mp cut
            exact ⟨header, payload, signature, shape, last, inner, fresh,
              ⟨bytes, first, readObject_ok_iff.mp object⟩, second, third⟩
  · rintro ⟨header, payload, signature, shape, last, inner, fresh, ⟨bytes, first, object⟩, second,
      third⟩
    have cut := segments?_eq_some_iff.mpr ⟨shape, last, inner, fresh⟩
    have read : readObject .headerUnreadable .headerNotObject bytes = .ok compact.header :=
      readObject_ok_iff.mpr object
    unfold Compact.parse
    simp only [cut, first, read, second, third]
    rfl

end Tollgate.Token
