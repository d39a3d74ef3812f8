import Tollgate.Json.Detect
import Tollgate.Settings.Basic

namespace Tollgate.Command

def randomId (bytes : Bytes) : Text :=
  Hex.encode <| bytes.mapIdx fun i b =>
    if i = 6 then b &&& 0x0F ||| 0x40 else if i = 8 then b &&& 0x3F ||| 0x80 else b

structure Result where
  code : Nat
  out : Text := []
  err : Text := []

def signingUsage : String :=
  "\nPrint a Stripe-Signature header for a webhook payload, for local testing.\n\n" ++
  "Usage:\n    python scripts/make_sig.py <payload.json> [secret]\n\n" ++
  "The secret defaults to STRIPE_WEBHOOK_SECRET from the environment / .env.\n\n"

def issuingUsage : String :=
  "\nIssue a development bearer token.\n\n" ++
  "Usage:\n    python scripts/issue_token.py <username> [authority ...]\n\n"

/-- Whether bytes hold JSON text, in any of its encodings. Numerals with too many digits are not
reported as malformed but crash, as do bytes that are not text. -/
def holdsJson (bytes : Bytes) : Except Crash Bool :=
  match Json.decode bytes with
  | none => .error .undecodable
  | some content =>
    match Json.read content with
    | .ok _ => .ok true
    | .error .malformed => .ok false
    | .error .tooManyDigits => .error .wrongValue

def signingSecret (source : Settings.Source) : Option Text → Except Crash Text
  | some secret => .ok secret
  | none => do return (← Settings.load source).stripeWebhookSecret

def sign (content : Text → Except Crash Bytes) (source : Settings.Source) (now : Clock)
    (path : Text) (secret : Option Text) : Except Crash Result := do
  let payload ← content path
  if ← holdsJson payload then
    let secret ← signingSecret source secret
    let some key := Utf8.encode secret | throw .unencodable
    return { code := 0, out := Webhook.signatureHeader key now.truncate payload ++ Text.lit "\n" }
  else return { code := 1, err := Text.lit "Error: payload must be valid JSON\n" }

def makeSignature (content : Text → Except Crash Bytes) (source : Settings.Source) (now : Clock) :
    List Text → Except Crash Result
  | [path] => sign content source now path none
  | [path, secret] => sign content source now path (some secret)
  | _ => .ok { code := 1, err := Text.lit signingUsage }

def defaultAuthorities : List Text := [Text.lit "ROLE_USER"]

def issueToken (source : Settings.Source) (now : Clock) (tokenId : Text) :
    List Text → Except Crash Result
  | [] => .ok { code := 1, out := Text.lit issuingUsage }
  | username :: authorities => do
    let authorities := if authorities.isEmpty then defaultAuthorities else authorities
    let settings ← Settings.load source
    let provider ← settings.provider none
    let names := Json.list (authorities.map Json.text)
    let token ← provider.createToken now tokenId (.text username) names
    return {
      code := 0
      out := Text.join (Text.lit "\n")
        [Text.lit "=== Development Token ===", Text.lit "Subject     : " ++ username,
         Text.lit "Authorities : " ++ Text.join (Text.lit ", ") authorities,
         Text.lit "Expires in  : " ++ Integer.decimal settings.jwtValidityMinutes ++
           Text.lit " minutes",
         Text.lit "Header      : Authorization: Bearer " ++ token, []] }

end Tollgate.Command
