import Tollgate.Proofs.Token.Lifetime

namespace Tollgate

open Token

theorem Token.signingKey?_of_symmetric {secret : Text} (digest : Digest)
    (symmetric : looksAsymmetric secret = false) :
    signingKey? digest.algorithm secret = (Utf8.encode secret).map (digest, ·) := by
  simp only [signingKey?, named?_algorithm, Algorithm.digest?, sharedKey, symmetric]
  cases Utf8.encode secret <;> rfl

/-- The payload of the token says when it was issued and when it expires. -/
structure Token.IsDated (token : Text) (claims : Members) (issuedAt expires : Int) : Prop where
  carried : Carries token claims
  issuedAt : claims.at? "iat" = some (.integer issuedAt)
  expires : claims.at? "exp" = some (.integer expires)

namespace JwtProvider

/-- How the issue of a token ends that is to expire at a second. -/
structure IssuesUntil (provider : JwtProvider) (now : Clock) (tokenId : Text)
    (subject authorities : Json) (issuedAt expires : Int) : Prop where
  issued : Clock.isDate expires = true → provider.secret.hasSurrogate = false →
    ∃ token claims, provider.createToken now tokenId subject authorities = .ok token ∧
      IsDated token claims issuedAt expires
  tooLate : Clock.isDate expires = false →
    provider.createToken now tokenId subject authorities = .error .outOfRange
  unsigned : Clock.isDate expires = true → provider.secret.hasSurrogate = true →
    provider.createToken now tokenId subject authorities = .error .unsignable

section

variable {provider : JwtProvider} {digest : Digest} {now : Clock} {issuedAt : Int}

theorem make_eq_ok {given : JwtProvider} (made : given.make = .ok provider) : provider = given := by
  unfold make at made
  split at made
  · exact (Except.ok.inj made).symm
  · cases made

theorem createToken_of_no_date (shown : now.second = .ok issuedAt)
    (noDate : Clock.isDate (issuedAt + 60 * provider.validityMinutes) = false) (tokenId : Text)
    (subject : Json) (items : List Json) :
    provider.createToken now tokenId subject (.list items) = .error .outOfRange := by
  unfold createToken
  rw [shown]
  simp only [entries?, bind, Except.bind, noDate]
  rfl

theorem createToken_of_no_key (shown : now.second = .ok issuedAt)
    (date : Clock.isDate (issuedAt + 60 * provider.validityMinutes) = true)
    (noKey : signingKey? provider.algorithm provider.secret = none) (tokenId : Text)
    (subject : Json) (items : List Json) :
    provider.createToken now tokenId subject (.list items) = .error .unsignable := by
  unfold createToken
  rw [shown]
  simp only [entries?, bind, Except.bind, date, noKey]
  rfl

theorem issuesUntil (algorithm : provider.algorithm = digest.algorithm)
    (symmetric : looksAsymmetric provider.secret = false) (shown : now.second = .ok issuedAt)
    (tokenId name : Text) (names : List Text) :
    provider.IssuesUntil now tokenId (.text name) (.list (names.map .text)) issuedAt
      (issuedAt + 60 * provider.validityMinutes) := by
  have signing := signingKey?_of_symmetric digest symmetric
  rw [← algorithm] at signing
  constructor
  case issued =>
    intro date scalar
    obtain ⟨key, encoded⟩ := Utf8.exists_encode scalar
    rw [encoded] at signing
    obtain ⟨token, issued⟩ :=
      createToken_of_key shown date signing tokenId name names
    obtain ⟨_, also, authentic⟩ := exists_authentic algorithm issued
    cases shown.symm.trans also
    exact ⟨token, _, issued, authentic.carries, rfl, rfl⟩
  case tooLate =>
    intro noDate
    exact createToken_of_no_date shown noDate tokenId _ _
  case unsigned =>
    intro date surrogate
    have unencodable : Utf8.encode provider.secret = none := by
      by_contra encodable
      have scalar := Utf8.encode_ne_none_iff.mp encodable
      exact Bool.false_ne_true (scalar.symm.trans surrogate)
    rw [unencodable] at signing
    exact createToken_of_no_key shown date signing tokenId _ _

end

/-- A provider that can be made issues a token at any time of the years 1970 to 2100, and the token
expires just one validity later, if that is on a date and if the secret can be encoded. -/
theorem issuance_within_dates (given provider : JwtProvider) (made : given.make = .ok provider)
    (digest : Digest) (algorithm : provider.algorithm = digest.algorithm)
    (symmetric : looksAsymmetric provider.secret = false) (now : Clock) (after : .whole 0 ≤ now)
    (before : now ≤ .whole 4133980800) :
    ∃ issuedAt, now.second = .ok issuedAt ∧ ∀ tokenId name (names : List Text),
      provider.IssuesUntil now tokenId (.text name) (.list (names.map .text)) issuedAt
        (issuedAt + 60 * given.validityMinutes) := by
  have epoch : Clock.second (.whole 0) = .ok 0 := rfl
  have last : Clock.second (.whole 4133980800) = .ok 4133980800 := rfl
  obtain ⟨issuedAt, shown, -, -⟩ := Clock.second_between epoch last after before
  obtain rfl := make_eq_ok made
  exact ⟨issuedAt, shown, issuesUntil algorithm symmetric shown⟩

def lastingProvider : JwtProvider := { plainProvider with validityMinutes := 5000000000 }

def surrogateProvider : JwtProvider := { plainProvider with secret := [⟨0xDFFF, by decide⟩] }

/-- Both can be made. In the year 2023 the one would issue a token that expires after the last date,
and the other has no key to sign a token with. -/
theorem providers_issue_nothing :
    (lastingProvider.make = .ok lastingProvider ∧
      lastingProvider.algorithm = Digest.sha256.algorithm ∧
      looksAsymmetric lastingProvider.secret = false ∧
      lastingProvider.createToken (.whole 1700000000) (Text.lit "0a") (.lit "ada") (.list []) =
        .error .outOfRange) ∧
    surrogateProvider.make = .ok surrogateProvider ∧
      surrogateProvider.algorithm = Digest.sha256.algorithm ∧
      looksAsymmetric surrogateProvider.secret = false ∧
      surrogateProvider.createToken (.whole 1700000000) (Text.lit "0a") (.lit "ada") (.list []) =
        .error .unsignable := by
  refine ⟨⟨rfl, rfl, by decide +kernel, ?_⟩, rfl, rfl, by decide +kernel, ?_⟩
  · exact createToken_of_no_date rfl rfl (Text.lit "0a") (.lit "ada") []
  · exact createToken_of_no_key rfl rfl rfl (Text.lit "0a") (.lit "ada") []

theorem plainProvider_issues :
    plainProvider.make = .ok plainProvider ∧ plainProvider.algorithm = Digest.sha256.algorithm ∧
      looksAsymmetric plainProvider.secret = false ∧
      ∃ token claims, plainProvider.createToken (.whole 0) (Text.lit "0a") (.lit "ada") (.list []) =
          .ok token ∧ IsDated token claims 0 3600 := by
  have symmetric : looksAsymmetric plainProvider.secret = false := by decide +kernel
  have after : Clock.whole 0 ≤ .whole 0 := ⟨⟨0, rfl⟩, _, rfl, rfl, le_rfl⟩
  have before : Clock.whole 0 ≤ .whole 4133980800 :=
    ⟨⟨0, rfl⟩, ⟨4133980800000000, rfl⟩, rfl, rfl, by decide⟩
  obtain ⟨issuedAt, shown, issues⟩ := issuance_within_dates plainProvider plainProvider rfl .sha256
    rfl symmetric (.whole 0) after before
  cases shown
  exact ⟨rfl, rfl, symmetric, (issues (Text.lit "0a") (Text.lit "ada") []).issued rfl rfl⟩

end JwtProvider

end Tollgate
