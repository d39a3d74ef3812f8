import Tollgate.Proofs.Token.OwnToken

namespace Tollgate

open Token

namespace Token

theorem Algorithm.mem_of_named? {name : Text} {algorithm : Algorithm}
    (named : named? name = some algorithm) :
    ∃ known, (known, algorithm) ∈ names ∧ Text.lit known = name := by
  unfold named? at named
  obtain ⟨⟨known, _⟩, found, rfl⟩ := Option.map_eq_some_iff.mp named
  exact ⟨known, List.mem_of_find?_eq_some found, by simpa using List.find?_some found⟩

theorem eq_algorithm_of_named? {name : Text} {digest : Digest}
    (named : Algorithm.named? name = some (.keyed digest)) : name = digest.algorithm := by
  obtain ⟨known, member, rfl⟩ := Algorithm.mem_of_named? named
  simp only [Algorithm.names, List.mem_cons, Prod.mk.injEq, Algorithm.keyed.injEq, reduceCtorEq,
    and_false, or_false, List.not_mem_nil] at member
  rcases member with ⟨rfl, rfl⟩ | ⟨rfl, rfl⟩ | ⟨rfl, rfl⟩ <;> rfl

theorem keyed_of_ofEntry {entry : Json} {algorithm : Algorithm} {key : Key}
    {signed signature : Bytes} (made : Key.ofEntry entry algorithm = .ok key)
    (accepts : key.accepts signed signature = true) : ∃ digest, algorithm = .keyed digest := by
  have refused {check : Except Crash Unit} (made : (fun _ => Key.inert) <$> check = .ok key) :
      False := by
    cases check with
    | error crash => cases made
    | ok =>
      cases made
      cases accepts
  cases algorithm with
  | keyed digest => exact ⟨digest, rfl⟩
  | rsa | ellipticCurve | cipher | direct => exact (refused made).elim

theorem keyed_of_isAccepted {algorithm : Algorithm} {signed signature : Bytes}
    {entries : List Json} (accepted : isAccepted algorithm signed signature entries = .ok true) :
    ∃ digest, algorithm = .keyed digest := by
  induction entries with
  | nil => cases accepted
  | cons entry entries ih =>
    unfold isAccepted at accepted
    obtain ⟨key, made, accepted⟩ := bind_eq_ok.mp accepted
    split at accepted
    · rename_i accepts
      exact keyed_of_ofEntry made accepts
    · exact ih accepted

theorem isSignedBy_eq_true_iff {secret algorithm : Text} {signed signature : Bytes} :
    isSignedBy secret algorithm signed signature = .ok true ↔
      ∃ digest, algorithm = digest.algorithm ∧ Verifies digest secret signed signature := by
  constructor
  · intro good
    have opened := good
    unfold isSignedBy at opened
    obtain ⟨keys, -, opened⟩ := bind_eq_ok.mp opened
    split at opened
    · rename_i kind named
      obtain ⟨digest, rfl⟩ := keyed_of_isAccepted opened
      cases eq_algorithm_of_named? named
      exact ⟨digest, rfl, isSignedBy_iff_verifies.mp good⟩
    · split at opened <;> cases opened
  · rintro ⟨digest, rfl, verifies⟩
    exact isSignedBy_iff_verifies.mpr verifies

end Token

namespace JwtProvider

/-- What makes a token authentic and current, whatever it says of authorities: it is spelled as a
token, it names the algorithm of the provider, one of the keys that the secret stands for makes its
signature, and its claims are in order in the second that the clock shows. -/
def IsVerified (provider : JwtProvider) (now : Clock) (token : Text) (claims : Members) : Prop :=
  ∃ digest bytes compact second, provider.algorithm = digest.algorithm ∧
    Utf8.encode token = some bytes ∧ Spells bytes compact ∧
    compact.header.at? "alg" = some (.text digest.algorithm) ∧
    Verifies digest provider.secret compact.signed compact.signature ∧
    Holds compact.payload claims ∧ now.second = .ok second ∧ InOrder second claims

theorem decode_ok_iff_isVerified {provider : JwtProvider} {now : Clock} {token : Text}
    {claims : Members} :
    provider.decode now token = .ok claims ↔ provider.IsVerified now token claims := by
  simp only [decode_eq_ok_iff, isSignedBy_eq_true_iff, checkClaims_ok_iff]
  constructor
  · rintro ⟨bytes, compact, encoded, spelled, ⟨named, -⟩, ⟨digest, algorithm, verifies⟩, held,
      second, shown, inOrder⟩
    exact ⟨digest, bytes, compact, second, algorithm, encoded, spelled, algorithm ▸ named, verifies,
      held, shown, inOrder⟩
  · rintro ⟨digest, bytes, compact, second, algorithm, encoded, spelled, named, verifies, held,
      shown, inOrder⟩
    have nonempty : provider.algorithm ≠ [] := algorithm ▸ algorithm_ne_nil digest
    exact ⟨bytes, compact, encoded, spelled, ⟨algorithm ▸ named, nonempty⟩,
      ⟨digest, algorithm, verifies⟩, held, second, shown, inOrder⟩

end JwtProvider

end Tollgate
