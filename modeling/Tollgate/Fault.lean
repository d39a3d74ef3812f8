import Tollgate.ApiCode

namespace Tollgate

inductive TokenFlaw where
  | tooFewSegments
  | headerUnreadable
  | headerNotObject
  | payloadPadding
  | signaturePadding
  | noAlgorithm
  | algorithmNotAllowed
  | signatureMismatch
  | payloadUnreadable
  | payloadNotObject
  | expirationMissing
  | subjectMissing
  | issuedAtNotInteger
  | notBeforeNotInteger
  | notYetValid
  | expirationNotInteger
  | expired
  | audienceFormat
  | audienceRefused
  | subjectNotText
  | tokenIdNotText
  | accessTokenHash
deriving DecidableEq, Repr

namespace TokenFlaw

inductive Kind where
  | token
  | claims
  | age
deriving DecidableEq, Repr

def kind : TokenFlaw → Kind
  | tooFewSegments | headerUnreadable | headerNotObject | payloadPadding | signaturePadding
  | noAlgorithm | algorithmNotAllowed | signatureMismatch | payloadUnreadable | payloadNotObject
  | expirationMissing | subjectMissing => .token
  | expired => .age
  | issuedAtNotInteger | notBeforeNotInteger | notYetValid | expirationNotInteger | audienceFormat
  | audienceRefused | subjectNotText | tokenIdNotText | accessTokenHash => .claims

def message : TokenFlaw → String
  | tooFewSegments => "Not enough segments"
  | headerUnreadable => "Invalid header string"
  | headerNotObject => "Invalid header string: must be a json object"
  | payloadPadding => "Invalid payload padding"
  | signaturePadding => "Invalid crypto padding"
  | noAlgorithm => "No algorithm was specified in the JWS header."
  | algorithmNotAllowed => "The specified alg value is not allowed"
  | signatureMismatch => "Signature verification failed."
  | payloadUnreadable => "Invalid payload string"
  | payloadNotObject => "Invalid payload string: must be a json object"
  | expirationMissing => "missing required key \"exp\" among claims"
  | subjectMissing => "missing required key \"sub\" among claims"
  | issuedAtNotInteger => "Issued At claim (iat) must be an integer."
  | notBeforeNotInteger => "Not Before claim (nbf) must be an integer."
  | notYetValid => "The token is not yet valid (nbf)"
  | expirationNotInteger => "Expiration Time claim (exp) must be an integer."
  | expired => "Signature has expired."
  | audienceFormat => "Invalid claim format in token"
  | audienceRefused => "Invalid audience"
  | subjectNotText => "Subject must be a string."
  | tokenIdNotText => "JWT ID must be a string."
  | accessTokenHash => "No access_token provided to compare against at_hash claim."

end TokenFlaw

inductive SignatureFlaw where
  | unreadableHeader
  | noSignature
  | noMatch
  | stale (timestamp : Int)
deriving DecidableEq, Repr

def SignatureFlaw.message : SignatureFlaw → Text
  | unreadableHeader => Text.lit "Unable to extract timestamp and signatures from header"
  | noSignature => Text.lit "No signatures found with expected scheme v1"
  | noMatch => Text.lit "No signatures found matching the expected signature for payload"
  | stale timestamp =>
    Text.lit "Timestamp outside the tolerance zone (" ++ Integer.decimal timestamp ++ Text.lit ")"

inductive PayloadFlaw where
  | undecodable
  | unencodable
  | incomparableSignature
  | malformed
  | tooManyDigits
  | notAnObject
deriving DecidableEq, Repr

inductive Cause where
  | token (flaw : TokenFlaw)
  | signature (flaw : SignatureFlaw)
  | payload (flaw : PayloadFlaw)
deriving DecidableEq, Repr

inductive FieldFlaw where
  | missing
  | notText
  | notInteger
  | tooLong
  | notUnicode
deriving DecidableEq, Repr

/-- How a collaborator can fail in a way of its own. -/
inductive Foreign where
  | api (code : ErrorCode)
  | findings (findings : List Members)
  /-- It has a status for the client, and a detail. Headers that it asks for are left out. -/
  | http (status : Nat) (detail : Json)
  | socket
  /-- It ends an iteration that nobody goes through. -/
  | stop
  | named (name : Text)
deriving DecidableEq

namespace Foreign

def name : Foreign → Text
  | api _ => Text.lit "ApiException"
  | findings _ => Text.lit "RequestValidationError"
  | http .. => Text.lit "HTTPException"
  | socket => Text.lit "WebSocketException"
  | stop => Text.lit "StopIteration"
  | named name => name

def ofName (name : Text) : Foreign :=
  if name = stop.name then stop else named name

instance : Coe Foreign Text := ⟨name⟩

instance : Coe Text Foreign := ⟨ofName⟩

end Foreign

inductive Crash where
  | wrongType
  | wrongValue
  | outOfRange
  | unknownName
  | noMembers
  | noLength
  | undecodable
  | unencodable
  | fileMissing
  | immutable
  | unknownEvent
  | unsignable
  | unusableKey
  | undecodableKey
  | unwritableAnswer
  | invalidFields (flaws : List (String × FieldFlaw))
  | foreign (failure : Foreign)
deriving DecidableEq

/-- How a computation can end without an answer: by an error that clients are told of, with what led
to it, or by a crash. -/
inductive Fault where
  | api (code : ApiCode) (cause : Option Cause)
  | crash (crash : Crash)
deriving DecidableEq

/-- What comes of a fault that leaves a coroutine, which the end of an iteration cannot do. -/
def Fault.fromCoroutine : Fault → Fault
  | crash (.foreign .stop) => crash (.foreign (.named (Text.lit "RuntimeError")))
  | fault => fault

end Tollgate
