import Tollgate.Proofs.Clock
import Tollgate.Proofs.Token.Claims
import Tollgate.Proofs.Token.Compact
import Tollgate.Proofs.Token.Key
import Tollgate.Token.Provider

namespace Tollgate

open Token Traced

/-- The authorities that claims name: one text, a list of texts, or none at all. -/
inductive Token.Grants (claims : Members) : List Text → Prop where
  | absent : claims.at? "auth" = none → Grants claims []
  | null : claims.at? "auth" = some .null → Grants claims []
  | single {name : Text} : claims.at? "auth" = some (.text name) → Grants claims [name]
  | list {names : List Text} :
    claims.at? "auth" = some (.list (names.map .text)) → Grants claims names

theorem RevocationCheck.orListed_eq_ok_false_iff {check : RevocationCheck}
    {ids : List (Option Text)} {claims : Members} : check.orListed ids claims = .ok false ↔
      JwtProvider.tokenId? claims ∉ ids ∧ check claims = .ok false := by
  unfold orListed
  split <;> rename_i listed <;> simp [listed]

namespace JwtProvider

theorem text?_eq_some_iff {value : Json} {t : Text} : value.text? = some t ↔ value = .text t := by
  cases value <;> simp [Json.text?]

theorem mapM_text?_eq_some_iff {items : List Json} {names : List Text} :
    items.mapM Json.text? = some names ↔ items = names.map .text := by
  rw [mapM_eq_some_iff]
  induction items generalizing names with
  | nil => cases names <;> simp
  | cons item items ih => cases names <;> simp [ih, text?_eq_some_iff]

theorem authorities?_eq_some_iff {claims : Members} {names : List Text} :
    authorities? claims = some names ↔ Grants claims names := by
  constructor
  · intro named
    unfold authorities? at named
    split at named
    · rename_i absent
      cases named
      exact .absent absent
    · rename_i null
      cases named
      exact .null null
    · rename_i name single
      cases named
      exact .single single
    · rename_i items list
      rw [mapM_text?_eq_some_iff.mp named] at list
      exact .list list
    · cases named
  · rintro (absent | null | single | list)
    · simp [authorities?, absent]
    · simp [authorities?, null]
    · simp [authorities?, single]
    · simp only [authorities?, list]
      exact mapM_text?_eq_some_iff.mpr rfl

theorem authorities_ok_iff {claims : Members} {names : List Text} :
    (authorities claims).outcome = .ok names ↔ Grants claims names := by
  rw [← authorities?_eq_some_iff]
  unfold authorities
  cases authorities? claims <;> simp

/-- The revocation check lets the claims pass, if there is one. -/
def IsUnrevoked (provider : JwtProvider) (claims : Members) : Prop :=
  ∀ check, provider.revoked = some check → check claims = .ok false

theorem isUnrevoked_orListed {provider : JwtProvider} {check : RevocationCheck}
    {ids : List (Option Text)} {claims : Members}
    (listed : provider.revoked = some (check.orListed ids)) :
    provider.IsUnrevoked claims ↔ tokenId? claims ∉ ids ∧ check claims = .ok false := by
  rw [← RevocationCheck.orListed_eq_ok_false_iff, IsUnrevoked, listed]
  simp

theorem checkRevocation_ok_iff {provider : JwtProvider} {claims : Members} :
    (provider.checkRevocation claims).outcome = .ok () ↔ provider.IsUnrevoked claims := by
  unfold checkRevocation IsUnrevoked RevocationCheck.recorded
  cases provider.revoked with
  | none => simp
  | some check =>
    rcases answer : check claims with fault | revoked
    · simp [answer]
    · cases revoked <;> simp [answer]

/-- A token whose signature is the keyed digest of what stands before its last dot, under the
secret in UTF-8, and whose payload is an object of these claims. -/
def IsAuthentic (provider : JwtProvider) (digest : Digest) (token : Text) (claims : Members) :
    Prop :=
  ∃ bytes compact key,
    Utf8.encode token = some bytes ∧ Spells bytes compact ∧
    compact.header.at? "alg" = some (.text provider.algorithm) ∧
    Utf8.encode provider.secret = some key ∧
    compact.signature = digest.hmac key compact.signed ∧
    Holds compact.payload claims

theorem named_iff {value : Option Json} {name : Text} :
    ((!(value.getD .null).isTruthy) = false ∧ (value.getD .null != .text name) = false) ↔
      value = some (.text name) ∧ name ≠ [] := by
  constructor
  · rintro ⟨truthy, same⟩
    cases value with
    | none => simp [Json.isTruthy] at truthy
    | some json =>
      have text : json = .text name := by simpa using same
      subst text
      exact ⟨rfl, by simpa [Json.isTruthy] using truthy⟩
  · rintro ⟨rfl, nonempty⟩
    simpa [Json.isTruthy] using nonempty

theorem decode_eq_ok_iff {provider : JwtProvider} {now : Clock} {token : Text} {claims : Members} :
    provider.decode now token = .ok claims ↔ ∃ bytes compact,
      Utf8.encode token = some bytes ∧ Spells bytes compact ∧
      (compact.header.at? "alg" = some (.text provider.algorithm) ∧ provider.algorithm ≠ []) ∧
      isSignedBy provider.secret provider.algorithm compact.signed compact.signature = .ok true ∧
      Holds compact.payload claims ∧ checkClaims now claims = .ok () := by
  unfold decode
  cases encoded : Utf8.encode token with
  | none => simp [throw, throwThe, MonadExceptOf.throw]
  | some bytes =>
    simp only [bind_eq_ok, throw_if_eq_ok, mapError_eq_ok, Compact.parse_ok_iff,
      readObject_ok_iff, Option.some.injEq]
    constructor
    · rintro ⟨compact, spelled, truthy, same, signed, checked, good, _, held, ⟨⟩, inOrder, ⟨⟩⟩
      rw [Bool.not_eq_false'] at good
      rw [good] at checked
      exact ⟨bytes, compact, rfl, spelled, named_iff.mp ⟨truthy, same⟩, checked, held, inOrder⟩
    · rintro ⟨_, compact, rfl, spelled, named, checked, held, inOrder⟩
      obtain ⟨truthy, same⟩ := named_iff.mpr named
      exact ⟨compact, spelled, truthy, same, true, checked, rfl, claims, held, (), inOrder, rfl⟩

theorem isSignedBy_true_iff {provider : JwtProvider} {digest : Digest}
    (algorithm : provider.algorithm = digest.algorithm) (plain : IsPlain provider.secret)
    {signed signature : Bytes} :
    isSignedBy provider.secret provider.algorithm signed signature = .ok true ↔
      ∃ key, Utf8.encode provider.secret = some key ∧ signature = digest.hmac key signed := by
  rw [algorithm, plain.isSignedBy_iff]

theorem decode_ok_iff {provider : JwtProvider} {digest : Digest}
    (algorithm : provider.algorithm = digest.algorithm) (plain : IsPlain provider.secret)
    {now : Clock} {token : Text} {claims : Members} :
    provider.decode now token = .ok claims ↔
      provider.IsAuthentic digest token claims ∧
        ∃ second, now.second = .ok second ∧ InOrder second claims := by
  have nonempty : provider.algorithm ≠ [] := algorithm ▸ algorithm_ne_nil digest
  simp only [decode_eq_ok_iff, isSignedBy_true_iff algorithm plain, checkClaims_ok_iff, IsAuthentic]
  constructor
  · rintro ⟨bytes, compact, encoded, spelled, ⟨named, -⟩, ⟨key, utf8, mac⟩, held, inOrder⟩
    exact ⟨⟨bytes, compact, key, encoded, spelled, named, utf8, mac, held⟩, inOrder⟩
  · rintro ⟨⟨bytes, compact, key, encoded, spelled, named, utf8, mac, held⟩, inOrder⟩
    exact ⟨bytes, compact, encoded, spelled, ⟨named, nonempty⟩, ⟨key, utf8, mac⟩, held, inOrder⟩

/-- All that a token needs to be accepted in a given second. -/
structure Accepts (provider : JwtProvider) (digest : Digest) (second : Int) (token : Text)
    (claims : Members) : Prop where
  authentic : provider.IsAuthentic digest token claims
  inOrder : InOrder second claims
  authorities : ∃ names, Grants claims names
  notRevoked : provider.IsUnrevoked claims

theorem validateToken_ok {provider : JwtProvider} {now : Clock} {token : Text} {claims : Members} :
    (provider.validateToken now token).outcome = .ok claims ↔
      provider.decode now token = .ok claims ∧
        (provider.checkRevocation claims).outcome = .ok () ∧
        ∃ names, (authorities claims).outcome = .ok names := by
  simp only [validateToken, bind_outcome_ok_iff, ofExcept_eq, mapError_eq_ok, pure_outcome,
    Except.ok.injEq]
  constructor
  · rintro ⟨_, decoded, _, unrevoked, names, granted, rfl⟩
    exact ⟨decoded, unrevoked, names, granted⟩
  · rintro ⟨decoded, unrevoked, names, granted⟩
    exact ⟨claims, decoded, (), unrevoked, names, granted, rfl⟩

theorem validateToken_ok_iff_accepts {provider : JwtProvider} (digest : Digest)
    (algorithm : provider.algorithm = digest.algorithm) (plain : IsPlain provider.secret)
    {now : Clock} {token : Text} {claims : Members} :
    (provider.validateToken now token).outcome = .ok claims ↔
      ∃ second, now.second = .ok second ∧ provider.Accepts digest second token claims := by
  rw [validateToken_ok, decode_ok_iff algorithm plain, checkRevocation_ok_iff]
  simp only [authorities_ok_iff]
  constructor
  · rintro ⟨⟨authentic, second, shown, inOrder⟩, notRevoked, granted⟩
    exact ⟨second, shown, authentic, inOrder, granted, notRevoked⟩
  · rintro ⟨second, shown, accepts⟩
    exact ⟨⟨accepts.authentic, second, shown, accepts.inOrder⟩, accepts.notRevoked,
      accepts.authorities⟩

/-- With a plain secret, the tokens that are accepted are those that are signed with it, whose
claims are in order in the second that the clock has reached, and which are not revoked. A clock
that shows no date accepts none; a running clock always shows one. -/
theorem acceptance_exact (provider : JwtProvider) (digest : Digest)
    (algorithm : provider.algorithm = digest.algorithm) (plain : IsPlain provider.secret)
    (now : Clock) (token : Text) (claims : Members) :
    (∀ date, now.date = .ok date →
      ((provider.validateToken now token).outcome = .ok claims ↔
        provider.Accepts digest ⌊date.seconds⌋ token claims)) ∧
    ((∀ date, now.date ≠ .ok date) → (provider.validateToken now token).outcome ≠ .ok claims) ∧
    ∀ nanoseconds, Clock.isTimestamp nanoseconds = true → now = .ofNanoseconds nanoseconds →
      ((provider.validateToken now token).outcome = .ok claims ↔
        provider.Accepts digest ⌊(nanoseconds / 10 ^ 9 : ℚ)⌋ token claims) := by
  have at_second {second : Int} (shown : now.second = .ok second) :
      (provider.validateToken now token).outcome = .ok claims ↔
        provider.Accepts digest second token claims := by
    rw [validateToken_ok_iff_accepts digest algorithm plain]
    constructor
    · rintro ⟨other, same, accepts⟩
      cases shown.symm.trans same
      exact accepts
    · intro accepts
      exact ⟨second, shown, accepts⟩
  refine ⟨fun date shown => ?_, fun noDate accepted => ?_, ?_⟩
  · exact at_second (Clock.second_eq_ok_iff.mpr ⟨date, shown, date.second_eq_floor⟩)
  · obtain ⟨second, shown, _⟩ := (validateToken_ok_iff_accepts digest algorithm plain).mp accepted
    obtain ⟨date, dated, -⟩ := Clock.second_eq_ok_iff.mp shown
    exact noDate date dated
  · rintro nanoseconds counted rfl
    exact at_second (Clock.second_ofNanoseconds_eq_floor counted)

def plainProvider : JwtProvider := { secret := Text.lit "secret" }

theorem plainProvider_isPlain : IsPlain plainProvider.secret where
  notJson value read := by
    have unread : (Json.readWith Json.Numeral.spelled plainProvider.secret).toOption = none := by
      decide +kernel
    simp [read, Except.toOption] at unread
  notAsymmetric := by decide +kernel

def claimsUntil (second : Int) : Members :=
  [(Text.lit "sub", .lit "a"), (Text.lit "exp", .integer second)]

def tokenOfEpoch : Text :=
  Text.lit "eyJhbGciOiJIUzI1NiIsInR5cCI6IkpXVCJ9" ++ Text.lit "." ++
    Text.lit "eyJzdWIiOiJhIiwiZXhwIjowfQ" ++ Text.lit "." ++
    Text.lit "c72mgPpCHqsVAkhcPCTsS1oS-dzDsEpVVN0D2mogu8E"

theorem tokenOfEpoch_valid :
    (plainProvider.validateToken (.whole 0) tokenOfEpoch).outcome = .ok (claimsUntil 0) :=
  eq_ok_of_toOption (by decide +kernel)

theorem acceptance_exact_at_epoch :
    plainProvider.algorithm = Digest.sha256.algorithm ∧ IsPlain plainProvider.secret ∧
      plainProvider.Accepts .sha256 ⌊(0 / 10 ^ 9 : ℚ)⌋ tokenOfEpoch (claimsUntil 0) ∧
      (plainProvider.validateToken (.ofNanoseconds 999999999) tokenOfEpoch).outcome =
        .ok (claimsUntil 0) := by
  have exact_at (n : Int) := (acceptance_exact plainProvider .sha256 rfl plainProvider_isPlain
    (.ofNanoseconds n) tokenOfEpoch (claimsUntil 0)).2.2 n
  have first := (exact_at 0 rfl rfl).mp (eq_ok_of_toOption (by decide +kernel))
  have floors : ⌊((999999999 : Int) / 10 ^ 9 : ℚ)⌋ = ⌊((0 : Int) / 10 ^ 9 : ℚ)⌋ := by norm_num
  refine ⟨rfl, plainProvider_isPlain, by simpa using first, (exact_at 999999999 rfl rfl).mpr ?_⟩
  rw [floors]
  exact first

end JwtProvider

end Tollgate
