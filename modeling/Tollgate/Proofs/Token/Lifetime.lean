import Tollgate.Proofs.Clock
import Tollgate.Proofs.Json.Surrogate
import Tollgate.Proofs.Token.Issue

namespace Tollgate

open Token

theorem Token.InOrder.between {first second last : Int} {claims : Members}
    (left : InOrder first claims) (right : InOrder last claims) (after : first ≤ second)
    (before : second ≤ last) : InOrder second claims :=
  { left with
    expires := by
      obtain ⟨value, n, given, whole, inTime⟩ := right.expires
      exact ⟨value, n, given, whole, before.trans inTime⟩
    notBefore := by
      intro value given
      obtain ⟨n, whole, started⟩ := left.notBefore value given
      exact ⟨n, whole, started.trans after⟩ }

theorem Json.textReadsAs_ascii (s : Text) : TextReadsAs escapeToAscii s s.joinPairs :=
  string?_escapeToAscii s

theorem Json.readsAs_texts (names : List Text) :
    List.Forall₂ (ReadsAs escapeToAscii) (names.map .text)
      ((names.map Text.joinPairs).map .text) := by
  induction names with
  | nil => exact .nil
  | cons name names ih => exact .cons (readsAs_text (textReadsAs_ascii name)) ih

namespace JwtProvider

def Accepted (provider : JwtProvider) (now : Clock) (token : Text) (claims : Members) : Prop :=
  (provider.validateToken now token).outcome = .ok claims

section

variable {provider : JwtProvider} {digest : Digest} {now middle later : Clock} {token : Text}
  {claims other : Members}

theorem Accepted.decoded (accepted : provider.Accepted now token claims) :
    provider.decode now token = .ok claims := (validateToken_ok.mp accepted).1

theorem Accepted.at_second (accepted : provider.Accepted now token claims) {second : Int}
    (shown : later.second = .ok second) (inOrder : InOrder second claims) :
    provider.Accepted later token claims := by
  obtain ⟨decoded, notRevoked, granted⟩ := validateToken_ok.mp accepted
  obtain ⟨bytes, compact, encoded, spelled, named, signed, held, -⟩ := decode_eq_ok_iff.mp decoded
  refine validateToken_ok.mpr ⟨?_, notRevoked, granted⟩
  exact decode_eq_ok_iff.mpr ⟨bytes, compact, encoded, spelled, named, signed, held,
    checkClaims_ok_iff.mpr ⟨second, shown, inOrder⟩⟩

theorem Accepted.inOrder (accepted : provider.Accepted now token claims) :
    ∃ second, now.second = .ok second ∧ InOrder second claims := by
  obtain ⟨_, _, -, -, -, -, -, checked⟩ := decode_eq_ok_iff.mp accepted.decoded
  exact checkClaims_ok_iff.mp checked

theorem Accepted.unique (first : provider.Accepted now token claims)
    (second : provider.Accepted later token other) : claims = other :=
  (carries_of_decode first.decoded).unique (carries_of_decode second.decoded)

theorem Accepted.between (first : provider.Accepted now token claims)
    (last : provider.Accepted later token other) (left : now ≤ middle) (right : middle ≤ later) :
    provider.Accepted middle token claims := by
  cases first.unique last
  obtain ⟨_, shownFirst, start⟩ := first.inOrder
  obtain ⟨_, shownLast, stop⟩ := last.inOrder
  obtain ⟨_, shown, after, before⟩ := Clock.second_between shownFirst shownLast left right
  exact first.at_second shown (start.between stop after before)

end

section

variable {provider : JwtProvider} {digest : Digest} {now : Clock} {tokenId token name : Text}
  {names : List Text}

def readGrant (name : Text) (names : List Text) (issuedAt expires : Int) (tokenId : Text) :
    Grant where
  subject := .text name.joinPairs
  authorities := (names.map Text.joinPairs).map .text
  issuedAt
  expires
  tokenId := tokenId.joinPairs

theorem readsAs_grant (name : Text) (names : List Text) (tokenId : Text) {issuedAt expires : Int}
    (issued : Clock.isDate issuedAt = true) (ends : Clock.isDate expires = true) :
    Json.ReadsAs Json.escapeToAscii
      (.object (Grant.claims ⟨.text name, names.map .text, issuedAt, expires, tokenId⟩))
      (.object (readGrant name names issuedAt expires tokenId).claims) := by
  have key {word : String} (scalar : (Text.lit word).hasSurrogate = false) :
      Json.TextReadsAs Json.escapeToAscii (Text.lit word) (Text.lit word) :=
    Json.string?_written Json.escapeToAscii_faithful scalar
  have text (s : Text) := Json.readsAs_text (Json.textReadsAs_ascii s)
  have date {second : Int} (date : Clock.isDate second = true) :
      Json.ReadsAs Json.escapeToAscii (.integer second) (.integer second) :=
    Json.readsAs_integer (Json.isExact_date date)
  have distinct : ((readGrant name names issuedAt expires tokenId).claims.map (·.1)).Nodup := by
    change [Text.lit "sub", Text.lit "auth", Text.lit "iat", Text.lit "exp", Text.lit "jti"].Nodup
    decide
  rw [← Json.ofPairs_of_nodup distinct]
  exact Json.readsAs_object <|
    .cons ⟨key (by decide), text name⟩ <|
    .cons ⟨key (by decide), Json.readsAs_list (Json.readsAs_texts names)⟩ <|
    .cons ⟨key (by decide), date issued⟩ <|
    .cons ⟨key (by decide), date ends⟩ <|
    .cons ⟨key (by decide), text tokenId⟩ .nil

theorem exists_authentic (algorithm : provider.algorithm = digest.algorithm)
    (issued : provider.createToken now tokenId (.text name) (.list (names.map .text)) = .ok token) :
    ∃ issuedAt, now.second = .ok issuedAt ∧ provider.IsAuthentic digest token (readGrant name names
      issuedAt (issuedAt + 60 * provider.validityMinutes) tokenId.asciiLower).claims := by
  obtain ⟨issuedAt, found, key, shown, date, given, rfl⟩ := createToken_ok issued
  rw [algorithm] at given ⊢
  obtain ⟨rfl, secret, -⟩ := signingKey?_eq_some given
  have reads := readsAs_grant name names tokenId.asciiLower (Clock.isDate_of_second shown) date
  exact ⟨issuedAt, shown, isAuthentic_sign algorithm secret (holds_of_readsAs reads)⟩

/-- An issued token is accepted by every clock that shows a date up to its last second, unless it is
revoked. -/
structure LastsUntil (provider : JwtProvider) (token : Text) (claims : Members) (last : Int) :
    Prop where
  expires : claims.at? "exp" = some (.integer last)
  accepted : ∀ now other, provider.Accepted now token other ↔ other = claims ∧
    (∃ date, now.date = .ok date ∧ ⌊date.seconds⌋ ≤ last) ∧ provider.IsUnrevoked claims

theorem exists_lastsUntil (algorithm : provider.algorithm = digest.algorithm)
    (plain : IsPlain provider.secret)
    (issued : provider.createToken now tokenId (.text name) (.list (names.map .text)) = .ok token) :
    ∃ date, now.date = .ok date ∧
      provider.LastsUntil token (readGrant name names ⌊date.seconds⌋
        (⌊date.seconds⌋ + 60 * provider.validityMinutes) tokenId.asciiLower).claims
        (⌊date.seconds⌋ + 60 * provider.validityMinutes) := by
  obtain ⟨issuedAt, shown, authentic⟩ := exists_authentic algorithm issued
  obtain ⟨date, dated, rfl⟩ := Clock.second_eq_ok_iff.mp shown
  rw [date.second_eq_floor] at authentic
  refine ⟨date, dated, rfl, fun now other => ?_⟩
  unfold Accepted
  rw [validateToken_ok_iff_accepts digest algorithm plain]
  constructor
  · rintro ⟨second, shown, accepts⟩
    cases accepts.authentic.carries.unique authentic.carries
    obtain ⟨_, n, expires, whole, inTime⟩ := accepts.inOrder.expires
    cases expires
    cases whole
    obtain ⟨day, dated, rfl⟩ := Clock.second_eq_ok_iff.mp shown
    rw [day.second_eq_floor] at inTime
    exact ⟨rfl, ⟨day, dated, inTime⟩, accepts.notRevoked⟩
  · rintro ⟨rfl, ⟨day, dated, inTime⟩, notRevoked⟩
    exact ⟨_, Clock.second_eq_ok_iff.mpr ⟨day, dated, day.second_eq_floor⟩, authentic,
      Grant.inOrder rfl inTime, ⟨_, .list rfl⟩, notRevoked⟩

end

/-- A token is accepted during one interval of time, always with the same claims. A token that the
provider issues is accepted up to the last second of its validity, counted from the second that the
clock had reached. -/
theorem validity_interval (provider : JwtProvider) (digest : Digest)
    (algorithm : provider.algorithm = digest.algorithm) (plain : IsPlain provider.secret) :
    (∀ token claims other first middle last, provider.Accepted first token claims →
      provider.Accepted last token other → first ≤ middle → middle ≤ last →
      provider.Accepted middle token claims ∧ other = claims) ∧
    (∀ token claims first middle last, provider.Accepted first token claims → first ≤ middle →
      middle ≤ last → (∀ other, ¬ provider.Accepted middle token other) →
      ∀ other, ¬ provider.Accepted last token other) ∧
    ∀ now tokenId name (names : List Text) token,
      provider.createToken now tokenId (.text name) (.list (names.map .text)) = .ok token →
      ∃ date claims, now.date = .ok date ∧
        tokenId? claims = some tokenId.asciiLower.joinPairs ∧
        provider.LastsUntil token claims (⌊date.seconds⌋ + 60 * provider.validityMinutes) := by
  refine ⟨?_, ?_, ?_⟩
  · intro token claims other first middle last start stop left right
    exact ⟨start.between stop left right, (start.unique stop).symm⟩
  · intro token claims first middle last start left right rejected other stop
    exact rejected claims (start.between stop left right)
  · intro now tokenId name names token issued
    obtain ⟨date, dated, lasts⟩ := exists_lastsUntil algorithm plain issued
    exact ⟨date, _, dated, rfl, lasts⟩

theorem tokenOfEpoch_accepted_before :
    plainProvider.Accepted (.whole (-10)) tokenOfEpoch (claimsUntil 0) :=
  eq_ok_of_toOption (by decide +kernel)

theorem plainProvider_validity_interval :
    plainProvider.algorithm = Digest.sha256.algorithm ∧ IsPlain plainProvider.secret ∧
      plainProvider.Accepted (.binary (.finite true (2 ^ 52) (-53))) tokenOfEpoch (claimsUntil 0) ∧
      ∃ token claims, plainProvider.createToken (.whole 0) (Text.lit "0a") (.lit "ada") (.list []) =
          .ok token ∧ plainProvider.Accepted (.ofNanoseconds 3600999999999) token claims ∧
        ¬ plainProvider.Accepted (.whole 3601) token claims := by
  obtain ⟨between, -, lasts⟩ :=
    validity_interval plainProvider .sha256 rfl plainProvider_isPlain
  have half : (Clock.binary (.finite true (2 ^ 52) (-53))).date = .ok ⟨-500000, rfl⟩ := rfl
  have after : Clock.whole (-10) ≤ .binary (.finite true (2 ^ 52) (-53)) :=
    ⟨⟨-10000000, rfl⟩, _, rfl, half, by decide⟩
  have before : Clock.binary (.finite true (2 ^ 52) (-53)) ≤ .whole 0 :=
    ⟨_, ⟨0, rfl⟩, half, rfl, by decide⟩
  have epoch : Clock.second (.whole 0) = .ok 0 := rfl
  obtain ⟨token, issued⟩ := exists_createToken .sha256 rfl plainProvider_isPlain rfl epoch rfl
    (Text.lit "0a") (Text.lit "ada") []
  obtain ⟨date, claims, dated, -, lasting⟩ :=
    lasts (.whole 0) (Text.lit "0a") (Text.lit "ada") [] token issued
  have issuedAt : ⌊date.seconds⌋ = 0 := by
    rw [← date.second_eq_floor]
    cases dated
    rfl
  rw [issuedAt] at lasting
  refine ⟨rfl, plainProvider_isPlain, ?_, token, claims, issued, ?_, ?_⟩
  · exact (between _ _ _ _ _ _ tokenOfEpoch_accepted_before tokenOfEpoch_valid after before).1
  · refine (lasting.accepted _ _).mpr ⟨rfl, ⟨⟨3600999999, rfl⟩, rfl, ?_⟩, fun check given => ?_⟩
    · rw [← Date.second_eq_floor]
      decide
    · cases given
  · intro late
    obtain ⟨-, ⟨date, dated, inTime⟩, -⟩ := (lasting.accepted _ _).mp late
    rw [← date.second_eq_floor] at inTime
    cases dated
    exact absurd inTime (by decide)

end JwtProvider

end Tollgate
