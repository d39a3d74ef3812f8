import Tollgate.Proofs.Token.Issue

namespace Tollgate

open Token Traced

namespace Token

/-- One of the keys that the secret stands for makes the signature, and those before it can be
used. -/
def Verifies (digest : Digest) (secret : Text) (signed signature : Bytes) : Prop :=
  ∃ before entry after key, keySet secret = .ok (before ++ entry :: after) ∧
    (∀ earlier ∈ before, ∃ other, secretOf earlier = .ok other) ∧
    secretOf entry = .ok key ∧ digest.hmac key signed = signature

section

variable {digest : Digest} {signed signature : Bytes}

theorem ofEntry_eq_ok_iff {entry : Json} {key : Key} :
    Key.ofEntry entry (.keyed digest) = .ok key ↔
      ∃ secret, secretOf entry = .ok secret ∧ key = .shared digest secret := by
  unfold Key.ofEntry
  cases secretOf entry <;> simp [Functor.map, Except.map, eq_comm]

theorem isAccepted_true_iff {entries : List Json} :
    isAccepted (.keyed digest) signed signature entries = .ok true ↔
      ∃ before entry after key, entries = before ++ entry :: after ∧
        (∀ earlier ∈ before, ∃ other, secretOf earlier = .ok other) ∧
        secretOf entry = .ok key ∧ digest.hmac key signed = signature := by
  induction entries with
  | nil => simp [isAccepted]
  | cons first entries ih =>
    simp only [isAccepted, bind_eq_ok, ofEntry_eq_ok_iff]
    constructor
    · rintro ⟨_, ⟨key, usable, rfl⟩, accepted⟩
      by_cases same : digest.hmac key signed = signature
      · exact ⟨[], first, entries, key, rfl, List.forall_mem_nil _, usable, same⟩
      · simp only [Key.accepts, same, decide_false, Bool.false_eq_true, if_false] at accepted
        obtain ⟨before, entry, after, other, rfl, earlier, found, mac⟩ := ih.mp accepted
        refine ⟨first :: before, entry, after, other, rfl, ?_, found, mac⟩
        intro one member
        rcases List.mem_cons.mp member with rfl | member
        · exact ⟨key, usable⟩
        · exact earlier one member
    · rintro ⟨before, entry, after, key, split, earlier, found, mac⟩
      cases before with
      | nil =>
        obtain ⟨rfl, rfl⟩ := List.cons.inj split
        exact ⟨_, ⟨key, found, rfl⟩, by simp [Key.accepts, mac]; rfl⟩
      | cons one before =>
        obtain ⟨rfl, rfl⟩ := List.cons.inj split
        obtain ⟨other, usable⟩ := earlier first (List.mem_cons_self ..)
        have rest := ih.mpr ⟨before, entry, after, key, rfl,
          fun later member => earlier later (List.mem_cons_of_mem _ member), found, mac⟩
        refine ⟨_, ⟨other, usable, rfl⟩, ?_⟩
        split
        · rfl
        · exact rest

theorem isSignedBy_iff_verifies {secret : Text} :
    isSignedBy secret digest.algorithm signed signature = .ok true ↔
      Verifies digest secret signed signature := by
  unfold isSignedBy Verifies
  simp only [named?_algorithm, bind_eq_ok, isAccepted_true_iff]
  constructor
  · rintro ⟨_, keys, before, entry, after, key, rfl, found⟩
    exact ⟨before, entry, after, key, keys, found⟩
  · rintro ⟨before, entry, after, key, keys, found⟩
    exact ⟨_, keys, before, entry, after, key, rfl, found⟩

theorem IsPlain.verifies {secret : Text} {key : Bytes} (plain : IsPlain secret)
    (encoded : Utf8.encode secret = some key) (digest : Digest) (signed : Bytes) :
    Verifies digest secret signed (digest.hmac key signed) := by
  have itself : secretOf (.text secret) = .ok key := by
    simp [secretOf, plain.sharedKey_eq, encoded]
  exact ⟨[], .text secret, [], key, plain.keySet_eq, List.forall_mem_nil _, itself, rfl⟩

end

theorem Spells.unique {token : Bytes} {compact other : Compact} (first : Spells token compact)
    (second : Spells token other) : compact = other :=
  Except.ok.inj ((Compact.parse_ok_iff.mpr first).symm.trans (Compact.parse_ok_iff.mpr second))

end Token

namespace JwtProvider

section

variable {provider : JwtProvider} {digest : Digest} {issue now : Clock}
  {tokenId token name : Text} {names : List Text} {grant : Grant} {key : Bytes}

def Grant.parts (grant : Grant) (digest : Digest) (key : Bytes) : Compact :=
  signedParts digest key (header digest.algorithm) grant.claims

theorem Grant.claims_inOrder (granted : provider.IsGranted digest issue tokenId name names token
    grant key) {second : Int} (shown : now.second = .ok second)
    (inTime : second ≤ grant.expires) : checkClaims now grant.claims = .ok () :=
  checkClaims_ok_iff.mpr ⟨second, shown, Grant.inOrder granted.subject inTime⟩

theorem IsGranted.decode_ok_iff
    (granted : provider.IsGranted digest issue tokenId name names token grant key)
    (algorithm : provider.algorithm = digest.algorithm) {second : Int}
    (shown : now.second = .ok second) (inTime : second ≤ grant.expires) {claims : Members} :
    provider.decode now token = .ok claims ↔ claims = grant.claims ∧
      Verifies digest provider.secret (grant.parts digest key).signed
        (grant.parts digest key).signature := by
  have spelled : Spells (sign digest key (header digest.algorithm) grant.claims)
      (grant.parts digest key) := sign_spells digest key (isExact_header digest) grant.claims
  have held : Holds (grant.parts digest key).payload grant.claims := holds_compact granted.exact
  rw [decode_eq_ok_iff, algorithm]
  simp only [isSignedBy_iff_verifies]
  constructor
  · rintro ⟨bytes, compact, encoded, also, -, verified, holds, -⟩
    cases granted.encoded.symm.trans encoded
    cases spelled.unique also
    exact ⟨holds.unique held, verified⟩
  · rintro ⟨rfl, verified⟩
    exact ⟨_, _, granted.encoded, spelled, ⟨rfl, algorithm_ne_nil digest⟩, verified, held,
      Grant.claims_inOrder granted shown inTime⟩

theorem IsGranted.validateToken_ok_iff
    (granted : provider.IsGranted digest issue tokenId name names token grant key)
    (algorithm : provider.algorithm = digest.algorithm) {second : Int}
    (shown : now.second = .ok second) (inTime : second ≤ grant.expires)
    (unrevoked : provider.IsUnrevoked grant.claims)
    {claims : Members} :
    (provider.validateToken now token).outcome = .ok claims ↔ claims = grant.claims ∧
      Verifies digest provider.secret (grant.parts digest key).signed
        (grant.parts digest key).signature := by
  have grants : Grants grant.claims names :=
    .list (congrArg (fun items => some (Json.list items)) granted.authorities)
  rw [validateToken_ok, granted.decode_ok_iff algorithm shown inTime]
  constructor
  · rintro ⟨decoded, -, -⟩
    exact decoded
  · rintro ⟨rfl, verified⟩
    exact ⟨⟨rfl, verified⟩, checkRevocation_ok_iff.mpr unrevoked, names,
      authorities_ok_iff.mpr grants⟩

end

/-- Up to its expiry, a token that is not revoked is accepted by the provider that issued it, with
the claims that were put in and no others, if one of the keys that the secret stands for makes the
signature that the secret itself has made. A secret that is no JSON text stands for itself. -/
theorem own_token_accepted_iff (provider : JwtProvider) (digest : Digest) (issue : Clock)
    (tokenId token name : Text) (names : List Text)
    (algorithm : provider.algorithm = digest.algorithm)
    (issued : provider.createToken issue tokenId (.text name) (.list (names.map .text)) = .ok token)
    (nameScalar : name.hasSurrogate = false)
    (namesScalar : ∀ authority ∈ names, authority.hasSurrogate = false)
    (idScalar : tokenId.hasSurrogate = false) :
    ∃ grant key, provider.IsGranted digest issue tokenId name names token grant key ∧
      (∀ now second claims, now.second = .ok second → second ≤ grant.expires →
        provider.IsUnrevoked grant.claims →
        ((provider.validateToken now token).outcome = .ok claims ↔ claims = grant.claims ∧
          Verifies digest provider.secret (grant.parts digest key).signed
            (grant.parts digest key).signature)) ∧
      ((∀ value, Json.readWith Json.Numeral.spelled provider.secret ≠ .ok value) →
        Verifies digest provider.secret (grant.parts digest key).signed
          (grant.parts digest key).signature) := by
  obtain ⟨grant, key, granted, symmetric⟩ :=
    exists_isGranted algorithm issued nameScalar namesScalar idScalar
  refine ⟨grant, key, granted, fun now second claims shown inTime unrevoked =>
    granted.validateToken_ok_iff algorithm shown inTime unrevoked, fun notJson => ?_⟩
  have plain : IsPlain provider.secret := ⟨notJson, symmetric⟩
  exact plain.verifies granted.secret digest _

def nameOfAda : Text := Text.lit "ada"

def rolesOfAda : List Text := [Text.lit "USER"]

def zeroId : Text := Text.lit "00000000000000000000000000000000"

theorem rolesOfAda_scalar : ∀ authority ∈ rolesOfAda, authority.hasSurrogate = false := by decide

theorem adas_token_accepted :
    plainProvider.algorithm = Digest.sha256.algorithm ∧ nameOfAda.hasSurrogate = false ∧
      (∀ authority ∈ rolesOfAda, authority.hasSurrogate = false) ∧ zeroId.hasSurrogate = false ∧
      ∃ token grant, plainProvider.createToken (.whole 0) zeroId (.text nameOfAda)
        (.list (rolesOfAda.map .text)) = .ok token ∧ grant.expires = 3600 ∧
        (plainProvider.validateToken (.whole 3600) token).outcome = .ok (Grant.claims grant) := by
  have encoded : Utf8.encode plainProvider.secret = some "secret".toUTF8.toList := by
    decide +kernel
  have zero : (Clock.whole 0).second = .ok 0 := rfl
  obtain ⟨token, created⟩ := exists_createToken .sha256 rfl plainProvider_isPlain encoded zero
    (by decide) zeroId nameOfAda rolesOfAda
  obtain ⟨grant, key, granted, accepts, verifies⟩ := own_token_accepted_iff plainProvider .sha256
    (.whole 0) zeroId token nameOfAda rolesOfAda rfl created (by decide) rolesOfAda_scalar
    (by decide)
  have issuedAt : 0 = grant.issuedAt := Except.ok.inj (zero.symm.trans granted.issuedAt)
  have expires : grant.expires = 3600 := by
    rw [granted.expires, ← issuedAt]
    rfl
  have valid := (accepts (.whole 3600) 3600 grant.claims rfl (Int.le_of_eq expires.symm) nofun).mpr
    ⟨rfl, verifies plainProvider_isPlain.notJson⟩
  exact ⟨rfl, by decide, rolesOfAda_scalar, by decide, token, grant, created, expires, valid⟩

/-- A provider whose secret is a JSON string: it signs with the quotes and checks without them. -/
def quotedProvider : JwtProvider := { secret := Text.lit "\"secret\"" }

def lockedOutToken : Text :=
  Text.lit "eyJhbGciOiJIUzI1NiIsInR5cCI6IkpXVCJ9" ++ Text.lit "." ++
    Text.lit "eyJzdWIiOiJhZGEiLCJhdXRoIjpbIlVTRVIiXSwiaWF0IjowLCJleHAiOjM2MDAsImp0aSI6IjAwMDAw" ++
    Text.lit "MDAwMDAwMDAwMDAwMDAwMDAwMDAwMDAwMDAwIn0" ++ Text.lit "." ++
    Text.lit "XIiQ1a8GKyxvvyxAPatv9ghFzJVIOwiJ1T_XBYe64Yc"

/-- A provider can refuse what it has issued in the same second. -/
theorem quoted_secret_locks_out :
    quotedProvider.createToken (.whole 0) zeroId (.text nameOfAda)
        (.list (rolesOfAda.map .text)) = .ok lockedOutToken ∧
      ∀ claims, (quotedProvider.validateToken (.whole 0) lockedOutToken).outcome ≠ .ok claims := by
  have created : quotedProvider.createToken (.whole 0) zeroId (.text nameOfAda)
      (.list (rolesOfAda.map .text)) = .ok lockedOutToken := eq_ok_of_toOption (by decide +kernel)
  have refused : (quotedProvider.validateToken (.whole 0) lockedOutToken).outcome.toOption = none :=
    by decide +kernel
  refine ⟨created, fun claims accepted => ?_⟩
  rw [accepted] at refused
  cases refused

end JwtProvider

end Tollgate
