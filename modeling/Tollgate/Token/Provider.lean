import Tollgate.Token.Claims
import Tollgate.Token.Key
import Tollgate.Account.Principal
import Tollgate.Clock
import Tollgate.Http.Header

namespace Tollgate

/-- What a host says of the claims of a token: whether the token has been revoked. It may fail. -/
abbrev RevocationCheck := Members → Except Fault Bool

def JwtProvider.tokenId? (claims : Members) : Option Text := (claims.at? "jti").bind Json.text?

namespace RevocationCheck

/-- Leaves a mark of each question, also if the check fails. -/
def recorded (check : RevocationCheck) (claims : Members) : Traced Bool := do
  Traced.emit (.revocationChecked claims)
  Traced.ofExcept (check claims)

def passing : RevocationCheck := fun _ => .ok false

/-- Looks the token id up in a list before anything else; a token without an id can be on it too. -/
def orListed (check : RevocationCheck) (ids : List (Option Text)) : RevocationCheck := fun claims =>
  if JwtProvider.tokenId? claims ∈ ids then .ok true else check claims

instance : Coe (Option (List (Option Text))) (Option RevocationCheck) :=
  ⟨Option.map passing.orListed⟩

end RevocationCheck

/-- What issues and checks tokens. With a revocation check, tokens that it finds revoked are
refused. -/
structure JwtProvider where
  secret : Text
  algorithm : Text := Text.lit "HS256"
  validityMinutes : Int := 60
  revoked : Option RevocationCheck := none

namespace JwtProvider

def dayLimit : Int := 999999999

def isDuration (minutes : Int) : Bool :=
  let days := (minutes * 60).fdiv 86400
  days ≥ -dayLimit && days ≤ dayLimit

def make (provider : JwtProvider) : Except Crash JwtProvider :=
  if isDuration provider.validityMinutes then .ok provider else .error .outOfRange

structure Grant where
  subject : Json
  authorities : List Json
  issuedAt : Int
  expires : Int
  tokenId : Text

def Grant.claims (grant : Grant) : Members :=
  [(Text.lit "sub", grant.subject), (Text.lit "auth", .list grant.authorities),
   (Text.lit "iat", .integer grant.issuedAt), (Text.lit "exp", .integer grant.expires),
   (Text.lit "jti", .text grant.tokenId)]

def header (algorithm : Text) : Members :=
  [(Text.lit "alg", .text algorithm), (Text.lit "typ", Json.lit "JWT")]

def sign (digest : Digest) (key : Bytes) (header claims : Members) : Bytes :=
  let signed := Token.segment (.object header) ++ Token.dot :: Token.segment (.object claims)
  signed ++ Token.dot :: Base64.encode (digest.hmac key signed)

def createToken (provider : JwtProvider) (now : Clock) (tokenId : Text)
    (subject authorities : Json) : Except Crash Text := do
  let issuedAt ← now.second
  let some authorities := Token.entries? authorities | throw .wrongType
  let expires := issuedAt + 60 * provider.validityMinutes
  if !Clock.isDate expires then throw .outOfRange
  let some (digest, key) := Token.signingKey? provider.algorithm provider.secret | throw .unsignable
  let grant : Grant := { subject, authorities, issuedAt, expires, tokenId := tokenId.asciiLower }
  if !Json.isWritable (.object grant.claims) then throw .wrongType
  return Text.ofLatin1 (sign digest key (header provider.algorithm) grant.claims)

def decode (provider : JwtProvider) (now : Clock) (token : Text) :
    Except Token.Failure Members := do
  let some bytes := Utf8.encode token | throw (.crash .unencodable)
  let compact ← (Token.Compact.parse bytes).mapError .flaw
  let algorithm := (compact.header.at? "alg").getD .null
  if !algorithm.isTruthy then throw (.flaw .noAlgorithm)
  if algorithm != .text provider.algorithm then throw (.flaw .algorithmNotAllowed)
  let signed ← (Token.isSignedBy provider.secret provider.algorithm compact.signed
    compact.signature).mapError .crash
  if !signed then throw (.flaw .signatureMismatch)
  let claims ←
    (Token.readObject .payloadUnreadable .payloadNotObject compact.payload).mapError .flaw
  Token.checkClaims now claims
  return claims

/-- A refused token is an error for the client, with the flaw as its cause; a crash stays one. -/
def faultOf : Token.Failure → Fault
  | .flaw flaw => .api .invalidExpiredToken (some (.token flaw))
  | .crash crash => .crash crash

def authorities? (claims : Members) : Option (List Text) :=
  match claims.at? "auth" with
  | none | some .null => some []
  | some (.text s) => some [s]
  | some (.list items) => items.mapM Json.text?
  | some _ => none

def authorities (claims : Members) : Traced (List Text) :=
  match authorities? claims with
  | some names => pure names
  | none => do
    Traced.log .info .tokens (Text.lit "Rejected token with malformed auth claim")
    Traced.reject .invalidExpiredToken

def checkRevocation (provider : JwtProvider) (claims : Members) : Traced Unit :=
  match provider.revoked with
  | none => pure ()
  | some check => do
    if ← check.recorded claims then
      Traced.log .info .tokens
        (Text.lit "Rejected revoked token jti=" ++ (tokenId? claims).getD (Text.lit "None"))
      Traced.reject .invalidExpiredToken

/-- The claims of a token that is good now. -/
def validateToken (provider : JwtProvider) (now : Clock) (token : Text) : Traced Members := do
  let claims ← Traced.ofExcept ((provider.decode now token).mapError faultOf)
  provider.checkRevocation claims
  let _ ← authorities claims
  return claims

def principalOf : Json → Traced Principal
  | .object claims => do
    let some subject := Members.at? claims "sub" | Traced.crash .unknownName
    let authorities ← authorities claims
    return { subject, authorities }
  | _ => Traced.crash .wrongType

/-- The principal that a token names; its claims are taken as given, if they are. -/
def getAuthentication (provider : JwtProvider) (now : Clock) (token : Text)
    (claims : Option Json) : Traced Principal := do
  match claims with
  | some claims => principalOf claims
  | none => principalOf (.object (← provider.validateToken now token))

/-- The token of a request: what follows the scheme in its first authorization header. -/
def resolveToken (headers : Headers) : Option Text := do
  let value ← headers.get? "authorization"
  let (scheme, token) ← cutFirst? (CodePoint.ofChar ' ') value
  let token := Text.trim token
  if Text.asciiLower scheme = Text.lit "bearer" ∧ token ≠ [] then some token else none

end JwtProvider

end Tollgate
