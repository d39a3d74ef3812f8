import Tollgate.Proofs.Trace
import Tollgate.Token.Key

namespace Tollgate

def Digest.algorithm : Digest → Text
  | sha256 => Text.lit "HS256"
  | sha384 => Text.lit "HS384"
  | sha512 => Text.lit "HS512"

namespace Token

/-- A secret that is neither a JSON text nor like an asymmetric key. -/
structure IsPlain (secret : Text) : Prop where
  notJson : ∀ value, Json.readWith Json.Numeral.spelled secret ≠ .ok value
  notAsymmetric : looksAsymmetric secret = false

theorem named?_algorithm (digest : Digest) :
    Algorithm.named? digest.algorithm = some (.keyed digest) := by
  cases digest <;> rfl

theorem algorithm_ne_nil (digest : Digest) : digest.algorithm ≠ [] := by
  cases digest <;> decide

theorem IsPlain.keySet_eq {secret : Text} (plain : IsPlain secret) :
    keySet secret = .ok [.text secret] := by
  unfold keySet
  split
  · rfl
  all_goals
    rename_i read
    exact absurd read (plain.notJson _)

theorem IsPlain.sharedKey_eq {secret : Text} (plain : IsPlain secret) :
    sharedKey secret = (Utf8.encode secret).elim (.error .unencodable) .ok := by
  unfold sharedKey
  cases Utf8.encode secret <;> simp [plain.notAsymmetric]

theorem IsPlain.isSignedBy_eq {secret : Text} (plain : IsPlain secret) (digest : Digest)
    (signed signature : Bytes) :
    isSignedBy secret digest.algorithm signed signature =
      (Utf8.encode secret).elim (.error .unencodable) fun key =>
        .ok (decide (digest.hmac key signed = signature)) := by
  simp only [isSignedBy, plain.keySet_eq, named?_algorithm]
  change isAccepted (.keyed digest) signed signature [.text secret] = _
  simp only [isAccepted, Key.ofEntry, secretOf, plain.sharedKey_eq]
  cases Utf8.encode secret with
  | none => rfl
  | some key =>
    by_cases same : digest.hmac key signed = signature
    all_goals
      simp [same, Key.accepts, bind, Except.bind, Functor.map, Except.map, pure, Except.pure]

theorem IsPlain.isSignedBy_iff {secret : Text} (plain : IsPlain secret) (digest : Digest)
    {signed signature : Bytes} :
    isSignedBy secret digest.algorithm signed signature = .ok true ↔
      ∃ key, Utf8.encode secret = some key ∧ signature = digest.hmac key signed := by
  rw [plain.isSignedBy_eq]
  cases Utf8.encode secret <;> simp [eq_comm]

end Token

end Tollgate
