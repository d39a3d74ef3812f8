import Tollgate.Proofs.Clock
import Tollgate.Proofs.Codec.Base64
import Tollgate.Proofs.Json.Ascii
import Tollgate.Proofs.Json.RoundTrip
import Tollgate.Proofs.Text.Utf8
import Tollgate.Proofs.Token.Acceptance

namespace Tollgate

open Token

namespace Token

theorem Holds.unique {bytes : Bytes} {claims other : Members} (first : Holds bytes claims)
    (second : Holds bytes other) : claims = other := by
  obtain ⟨content, decoded, read⟩ := first
  obtain ⟨_, same, again⟩ := second
  cases decoded.symm.trans same
  cases read.symm.trans again
  rfl

theorem holds_of_readsAs {members claims : Members}
    (reads : Json.ReadsAs Json.escapeToAscii (.object members) (.object claims)) :
    Holds (Json.compact (.object members)).lowBytes claims :=
  ⟨_, Utf8.decode_of_encode (Utf8.encode_lowBytes (Json.isAscii_compact _)), reads.read⟩

theorem holds_compact {claims : Members} (exact : Json.IsExact (.object claims)) :
    Holds (Json.compact (.object claims)).lowBytes claims :=
  holds_of_readsAs (Json.readsAs_of_isExact Json.escapeToAscii_faithful _ exact)

/-- The payload of the token is an object of these claims, whatever its header and its signature. -/
def Carries (token : Text) (claims : Members) : Prop :=
  ∃ bytes signed header payload signature content, Utf8.encode token = some bytes ∧
    segments? bytes = some (signed, header, payload, signature) ∧
    Base64.decode payload = some content ∧ Holds content claims

theorem Carries.unique {token : Text} {claims other : Members} (first : Carries token claims)
    (second : Carries token other) : claims = other := by
  obtain ⟨bytes, signed, header, payload, signature, content, encoded, cut, decoded, held⟩ := first
  obtain ⟨_, _, _, _, _, _, sameBytes, sameCut, sameContent, alsoHeld⟩ := second
  cases encoded.symm.trans sameBytes
  cases cut.symm.trans sameCut
  cases decoded.symm.trans sameContent
  exact held.unique alsoHeld

theorem carries_of_spells {token : Text} {bytes : Bytes} {compact : Compact} {claims : Members}
    (encoded : Utf8.encode token = some bytes) (spelled : Spells bytes compact)
    (held : Holds compact.payload claims) : Carries token claims := by
  obtain ⟨header, payload, signature, shape, last, inner, fresh, -, decoded, -⟩ := spelled
  exact ⟨bytes, compact.signed, header, payload, signature, compact.payload, encoded,
    segments?_eq_some_iff.mpr ⟨shape, last, inner, fresh⟩, decoded, held⟩

theorem dot_not_mem_encode (bytes : Bytes) : dot ∉ Base64.encode bytes :=
  fun member => (Base64.isDigit_of_mem_encode member).ne_dot rfl

def signedParts (digest : Digest) (key : Bytes) (header claims : Members) : Compact where
  signed := segment (.object header) ++ dot :: segment (.object claims)
  header
  payload := (Json.compact (.object claims)).lowBytes
  signature := digest.hmac key (segment (.object header) ++ dot :: segment (.object claims))

theorem sign_spells (digest : Digest) (key : Bytes) {header : Members}
    (exact : Json.IsExact (.object header)) (claims : Members) :
    Spells (JwtProvider.sign digest key header claims) (signedParts digest key header claims) :=
  ⟨segment (.object header), segment (.object claims), _, rfl, dot_not_mem_encode _, rfl,
    dot_not_mem_encode _, ⟨_, Base64.decode_encode _, holds_compact exact⟩,
    Base64.decode_encode _, Base64.decode_encode _⟩

def IsTokenByte (b : UInt8) : Prop := Base64.IsDigit b ∨ b = dot

theorem IsTokenByte.isAscii {b : UInt8} (isToken : IsTokenByte b) :
    (CodePoint.ofByte b).isAscii = true := by
  rcases isToken with digit | rfl
  · exact digit.isAscii
  · decide

theorem IsTokenByte.not_blank {b : UInt8} (isToken : IsTokenByte b) :
    (CodePoint.ofByte b).isBlank = false := by
  rcases isToken with digit | rfl
  · exact digit.not_blank
  · decide

theorem isTokenByte_of_mem_sign {digest : Digest} {key : Bytes} {header claims : Members}
    {b : UInt8} (member : b ∈ JwtProvider.sign digest key header claims) : IsTokenByte b := by
  have digit {bytes : Bytes} (member : b ∈ Base64.encode bytes) : IsTokenByte b :=
    .inl (Base64.isDigit_of_mem_encode member)
  simp only [JwtProvider.sign, List.mem_append, List.mem_cons] at member
  rcases member with (member | same | member) | same | member
  · exact digit member
  · exact .inr same
  · exact digit member
  · exact .inr same
  · exact digit member

end Token

theorem Text.lowBytes_ofLatin1 (bytes : Bytes) : (Text.ofLatin1 bytes).lowBytes = bytes := by
  unfold Text.ofLatin1 Text.lowBytes
  rw [List.map_map]
  conv => rhs; rw [← List.map_id bytes]
  refine List.map_congr_left fun b _ => ?_
  exact UInt8.ofNat_toNat

theorem Utf8.encode_ofLatin1 {bytes : Bytes}
    (ascii : ∀ b ∈ bytes, (CodePoint.ofByte b).isAscii = true) :
    Utf8.encode (Text.ofLatin1 bytes) = some bytes := by
  have all : (Text.ofLatin1 bytes).isAscii = true := by
    simpa [Text.isAscii, Text.ofLatin1] using ascii
  rw [Utf8.encode_lowBytes all, Text.lowBytes_ofLatin1]

theorem Json.isExact_date {second : Int} (date : Clock.isDate second = true) :
    IsExact (.integer second) := by
  have few : 10 ^ 12 ≤ 10 ^ Integer.digitLimit := Nat.pow_le_pow_right (by decide) (by decide)
  simp only [Clock.isDate, Bool.and_eq_true, decide_eq_true_eq] at date
  refine Nat.lt_of_lt_of_le ?_ few
  omega

theorem Text.hasSurrogate_asciiLower (s : Text) : s.asciiLower.hasSurrogate = s.hasSurrogate := by
  have one (c : CodePoint) : c.asciiLower.isSurrogate = c.isSurrogate := by
    unfold CodePoint.asciiLower CodePoint.isSurrogate
    split
    · rename_i letter
      have first : ¬ 0xD800 ≤ c.val := by omega
      have second : ¬ 0xD800 ≤ c.val + 0x20 := by omega
      simp [first, second]
    · rfl
  simp only [Text.hasSurrogate, Text.asciiLower, List.any_map]
  exact congrArg s.any (funext one)

theorem Json.areExact_texts {names : List Text}
    (scalar : ∀ name ∈ names, name.hasSurrogate = false) : AreExact (names.map .text) := by
  induction names with
  | nil => trivial
  | cons name names ih =>
    exact ⟨scalar name (List.mem_cons_self ..),
      ih fun other member => scalar other (List.mem_cons_of_mem _ member)⟩

theorem Token.signingKey?_eq_some {secret : Text} {digest found : Digest} {key : Bytes}
    (given : signingKey? digest.algorithm secret = some (found, key)) :
    found = digest ∧ Utf8.encode secret = some key ∧ looksAsymmetric secret = false := by
  simp only [signingKey?, named?_algorithm, Algorithm.digest?, sharedKey] at given
  cases encoded : Utf8.encode secret with
  | none => simp [encoded, Except.toOption] at given
  | some bytes =>
    cases asymmetric : looksAsymmetric secret with
    | true => simp [encoded, asymmetric, Except.toOption] at given
    | false =>
      simp only [encoded, asymmetric] at given
      cases given
      exact ⟨rfl, rfl, rfl⟩

namespace JwtProvider

theorem IsAuthentic.carries {provider : JwtProvider} {digest : Digest} {token : Text}
    {claims : Members} (authentic : provider.IsAuthentic digest token claims) :
    Carries token claims := by
  obtain ⟨bytes, compact, -, encoded, spelled, -, -, -, held⟩ := authentic
  exact carries_of_spells encoded spelled held

theorem carries_of_decode {provider : JwtProvider} {now : Clock} {token : Text} {claims : Members}
    (decoded : provider.decode now token = .ok claims) : Carries token claims := by
  obtain ⟨bytes, compact, encoded, spelled, -, -, held, -⟩ := decode_eq_ok_iff.mp decoded
  exact carries_of_spells encoded spelled held

theorem isExact_header (digest : Digest) : Json.IsExact (.object (header digest.algorithm)) := by
  have name : digest.algorithm.hasSurrogate = false := by cases digest <;> decide
  have keys : ((header digest.algorithm).map (·.1)).Nodup := by
    change [Text.lit "alg", Text.lit "typ"].Nodup
    decide
  have type : Json.IsExact (.text (Text.lit "JWT")) := by
    change (Text.lit "JWT").hasSurrogate = false
    decide
  exact ⟨keys, by decide, name, by decide, type, trivial⟩

theorem Grant.isExact {grant : Grant} (subject : Json.IsExact grant.subject)
    (authorities : Json.AreExact grant.authorities)
    (issuedAt : Clock.isDate grant.issuedAt = true) (expires : Clock.isDate grant.expires = true)
    (tokenId : grant.tokenId.hasSurrogate = false) : Json.IsExact (.object grant.claims) := by
  have keys : (grant.claims.map (·.1)).Nodup := by
    change [Text.lit "sub", Text.lit "auth", Text.lit "iat", Text.lit "exp", Text.lit "jti"].Nodup
    decide
  exact ⟨keys, by decide, subject, by decide, authorities, by decide,
    Json.isExact_date issuedAt, by decide, Json.isExact_date expires, by decide, tokenId, trivial⟩

theorem Grant.inOrder {grant : Grant} {name : Text} (subject : grant.subject = .text name)
    {second : Int} (inTime : second ≤ grant.expires) : InOrder second grant.claims where
  expires := ⟨_, _, rfl, rfl, inTime⟩
  subject := ⟨name, congrArg some subject⟩
  issuedAt value given := by cases given; exact ⟨_, rfl⟩
  notBefore value given := by cases given
  tokenId value given := by cases given; exact ⟨_, rfl⟩
  audience := rfl
  accessHash := rfl

theorem encode_sign (digest : Digest) (key : Bytes) (header claims : Members) :
    Utf8.encode (Text.ofLatin1 (sign digest key header claims)) =
      some (sign digest key header claims) :=
  Utf8.encode_ofLatin1 fun _ member => (isTokenByte_of_mem_sign member).isAscii

theorem createToken_ok {provider : JwtProvider} {now : Clock} {tokenId token : Text}
    {subject : Json} {items : List Json}
    (issued : provider.createToken now tokenId subject (.list items) = .ok token) :
    ∃ issuedAt digest key, now.second = .ok issuedAt ∧
      Clock.isDate (issuedAt + 60 * provider.validityMinutes) = true ∧
      signingKey? provider.algorithm provider.secret = some (digest, key) ∧
      token = Text.ofLatin1 (sign digest key (header provider.algorithm)
        (Grant.claims ⟨subject, items, issuedAt, issuedAt + 60 * provider.validityMinutes,
          tokenId.asciiLower⟩)) := by
  unfold createToken at issued
  obtain ⟨issuedAt, shown, issued⟩ := bind_eq_ok.mp issued
  simp only [entries?] at issued
  obtain ⟨date, issued⟩ := throw_if_eq_ok.mp issued
  rw [Bool.not_eq_false'] at date
  cases found : signingKey? provider.algorithm provider.secret with
  | none => simp [found, throw, throwThe, MonadExceptOf.throw] at issued
  | some pair =>
    simp only [found] at issued
    obtain ⟨-, issued⟩ := throw_if_eq_ok.mp issued
    cases issued
    exact ⟨issuedAt, pair.1, pair.2, shown, date, rfl, rfl⟩

theorem createToken_solid {provider : JwtProvider} {now : Clock} {tokenId token : Text}
    {subject : Json} {items : List Json}
    (issued : provider.createToken now tokenId subject (.list items) = .ok token) :
    token ≠ [] ∧ ∀ c ∈ token, c.isBlank = false := by
  obtain ⟨issuedAt, digest, key, -, -, -, rfl⟩ := createToken_ok issued
  constructor
  · simp [Text.ofLatin1, sign]
  · intro c member
    obtain ⟨b, byte, rfl⟩ := List.mem_map.mp member
    exact (isTokenByte_of_mem_sign byte).not_blank

theorem isAuthentic_sign {provider : JwtProvider} {digest : Digest} {key : Bytes}
    (algorithm : provider.algorithm = digest.algorithm)
    (secret : Utf8.encode provider.secret = some key) {members claims : Members}
    (held : Holds (Json.compact (.object members)).lowBytes claims) :
    provider.IsAuthentic digest
      (Text.ofLatin1 (sign digest key (header digest.algorithm) members)) claims := by
  have named : (header digest.algorithm).at? "alg" = some (.text provider.algorithm) := by
    rw [algorithm]
    rfl
  exact ⟨_, signedParts digest key (header digest.algorithm) members, key,
    encode_sign digest key _ _, sign_spells digest key (isExact_header digest) members, named,
    secret, rfl, held⟩

theorem isWritable_claims (name tokenId : Text) (names : List Text) {issuedAt expires : Int}
    (issued : Clock.isDate issuedAt = true) (ends : Clock.isDate expires = true) :
    Json.isWritable (.object (Grant.claims ⟨.text name, names.map .text, issuedAt, expires,
      tokenId⟩)) = true := by
  have date {second : Int} (date : Clock.isDate second = true) :
      Json.isWritable (.integer second) = true :=
    Integer.isWritable_iff.mpr (Json.isExact_date date)
  apply Json.membersAreWritable_iff.mpr
  unfold Grant.claims
  simp only [List.forall_mem_cons]
  exact ⟨rfl, Json.areWritable_texts names, date issued, date ends, rfl, nofun⟩

theorem createToken_of_key {provider : JwtProvider} {digest : Digest} {key : Bytes} {now : Clock}
    {issuedAt : Int} (shown : now.second = .ok issuedAt)
    (date : Clock.isDate (issuedAt + 60 * provider.validityMinutes) = true)
    (signing : signingKey? provider.algorithm provider.secret = some (digest, key))
    (tokenId name : Text) (names : List Text) :
    ∃ token, provider.createToken now tokenId (.text name) (.list (names.map .text)) =
      .ok token := by
  have writable :=
    isWritable_claims name tokenId.asciiLower names (Clock.isDate_of_second shown) date
  unfold createToken
  rw [shown]
  simp only [entries?, bind, Except.bind, date, signing, writable]
  exact ⟨_, rfl⟩

theorem exists_createToken {provider : JwtProvider} (digest : Digest) {key : Bytes}
    (algorithm : provider.algorithm = digest.algorithm) (plain : IsPlain provider.secret)
    (encoded : Utf8.encode provider.secret = some key) {now : Clock} {issuedAt : Int}
    (shown : now.second = .ok issuedAt)
    (date : Clock.isDate (issuedAt + 60 * provider.validityMinutes) = true)
    (tokenId name : Text) (names : List Text) :
    ∃ token, provider.createToken now tokenId (.text name) (.list (names.map .text)) =
      .ok token := by
  have signing : signingKey? provider.algorithm provider.secret = some (digest, key) := by
    simp only [signingKey?, algorithm, named?_algorithm, Algorithm.digest?, plain.sharedKey_eq,
      encoded]
    rfl
  exact createToken_of_key shown date signing tokenId name names

/-- The token is a grant to an account holder, signed with the secret as it stands. -/
structure IsGranted (provider : JwtProvider) (digest : Digest) (now : Clock)
    (tokenId name : Text) (names : List Text) (token : Text) (grant : Grant) (key : Bytes) :
    Prop where
  subject : grant.subject = .text name
  authorities : grant.authorities = names.map .text
  issuedAt : now.second = .ok grant.issuedAt
  expires : grant.expires = grant.issuedAt + 60 * provider.validityMinutes
  tokenId : grant.tokenId = tokenId.asciiLower
  secret : Utf8.encode provider.secret = some key
  token : token = Text.ofLatin1 (sign digest key (header digest.algorithm) grant.claims)
  exact : Json.IsExact (.object grant.claims)

section

variable {provider : JwtProvider} {digest : Digest} {now : Clock} {tokenId token name : Text}
  {names : List Text}

theorem exists_isGranted (algorithm : provider.algorithm = digest.algorithm)
    (issued : provider.createToken now tokenId (.text name) (.list (names.map .text)) = .ok token)
    (nameScalar : name.hasSurrogate = false)
    (namesScalar : ∀ authority ∈ names, authority.hasSurrogate = false)
    (idScalar : tokenId.hasSurrogate = false) :
    ∃ grant key, provider.IsGranted digest now tokenId name names token grant key ∧
      looksAsymmetric provider.secret = false := by
  obtain ⟨issuedAt, found, key, shown, date, given, rfl⟩ := createToken_ok issued
  rw [algorithm] at given ⊢
  obtain ⟨rfl, encoded, symmetric⟩ := signingKey?_eq_some given
  let grant : Grant := ⟨.text name, names.map .text, issuedAt,
    issuedAt + 60 * provider.validityMinutes, tokenId.asciiLower⟩
  have exact : Json.IsExact (.object grant.claims) :=
    Grant.isExact nameScalar (Json.areExact_texts namesScalar) (Clock.isDate_of_second shown) date
      ((Text.hasSurrogate_asciiLower tokenId).trans idScalar)
  exact ⟨grant, key, ⟨rfl, rfl, shown, rfl, rfl, encoded, rfl, exact⟩, symmetric⟩

theorem IsGranted.encoded {grant : Grant} {key : Bytes}
    (granted : provider.IsGranted digest now tokenId name names token grant key) :
    Utf8.encode token = some (sign digest key (header digest.algorithm) grant.claims) := by
  rw [granted.token]
  exact encode_sign digest key _ _

theorem exists_grant (algorithm : provider.algorithm = digest.algorithm)
    (issued : provider.createToken now tokenId (.text name) (.list (names.map .text)) = .ok token)
    (nameScalar : name.hasSurrogate = false)
    (namesScalar : ∀ authority ∈ names, authority.hasSurrogate = false)
    (idScalar : tokenId.hasSurrogate = false) :
    ∃ grant : Grant, grant.subject = .text name ∧ grant.authorities = names.map .text ∧
      now.second = .ok grant.issuedAt ∧
      grant.expires = grant.issuedAt + 60 * provider.validityMinutes ∧
      grant.tokenId = tokenId.asciiLower ∧ provider.IsAuthentic digest token grant.claims := by
  obtain ⟨grant, key, granted, -⟩ :=
    exists_isGranted algorithm issued nameScalar namesScalar idScalar
  have authentic := isAuthentic_sign algorithm granted.secret (holds_compact granted.exact)
  rw [← granted.token] at authentic
  exact ⟨grant, granted.subject, granted.authorities, granted.issuedAt, granted.expires,
    granted.tokenId, authentic⟩

end

end JwtProvider

end Tollgate
