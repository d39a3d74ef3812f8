import Tollgate.Settings.EnvFile
import Tollgate.Settings.Numeral
import Tollgate.Token.Provider
import Tollgate.Webhook.Service

namespace Tollgate

structure Settings where
  jwtSecretKey : Text
  jwtAlgorithm : Text
  jwtValidityMinutes : Int
  stripeWebhookSecret : Text
  stripeWebhookTolerance : Int
  allowedOrigins : Text
  maxBodyBytes : Int
  logLevel : Text
deriving DecidableEq, Repr

namespace Settings

/-- Lower case, as far as it yields letters of the names of settings: the Kelvin sign is a k. -/
def foldName (name : Text) : Text :=
  name.map fun c => if c.val = 0x212A then 'k' else c.asciiLower

def find? {α : Type} (entries : List (Text × α)) (name : String) : Option α :=
  (entries.reverse.find? fun (n, _) => foldName n = Text.lit name).map (·.2)

def names : List String :=
  ["jwt_secret_key", "jwt_algorithm", "jwt_validity_minutes", "stripe_webhook_secret",
   "stripe_webhook_tolerance", "allowed_origins", "max_body_bytes", "log_level"]

structure Source where
  environment : List (Text × Text)
  file : Option Text

/-- An empty value counts as given, and a variable of the file without value does not. -/
def Source.value? (source : Source) (name : String) : Option Text :=
  match find? source.environment name with
  | some value => some value
  | none =>
    source.file.bind fun file => (find? (EnvFile.read source.environment file) name).getD none

abbrev Reading (α : Type) := Except FieldFlaw α

def text (source : Source) (name : String) (default : Option String) : Reading Text :=
  match source.value? name, default with
  | some value, _ => .ok value
  | none, some default => .ok (Text.lit default)
  | none, none => .error .missing

def integer (source : Source) (name : String) (default : Int) : Reading Int :=
  match source.value? name with
  | some value => Numeral.read value
  | none => .ok default

def flawOf {α : Type} (name : String) : Reading α → List (String × FieldFlaw)
  | .ok _ => []
  | .error flaw => [(name, flaw)]

def load (source : Source) : Except Crash Settings :=
  let secretKey := text source "jwt_secret_key" none
  let algorithm := text source "jwt_algorithm" (some "HS256")
  let validity := integer source "jwt_validity_minutes" 60
  let webhookSecret := text source "stripe_webhook_secret" none
  let tolerance := integer source "stripe_webhook_tolerance" 300
  let origins :=
    text source "allowed_origins" (some "http://localhost:3000,https://app.example.com")
  let bodyBytes := integer source "max_body_bytes" 1048576
  let level := text source "log_level" (some "INFO")
  match secretKey, algorithm, validity, webhookSecret, tolerance, origins, bodyBytes, level with
  | .ok jwtSecretKey, .ok jwtAlgorithm, .ok jwtValidityMinutes, .ok stripeWebhookSecret,
    .ok stripeWebhookTolerance, .ok allowedOrigins, .ok maxBodyBytes, .ok logLevel =>
    .ok ⟨jwtSecretKey, jwtAlgorithm, jwtValidityMinutes, stripeWebhookSecret,
      stripeWebhookTolerance, allowedOrigins, maxBodyBytes, logLevel⟩
  | _, _, _, _, _, _, _, _ =>
    .error <| .invalidFields <|
      flawOf "jwt_secret_key" secretKey ++ flawOf "jwt_validity_minutes" validity ++
        flawOf "max_body_bytes" bodyBytes ++ flawOf "stripe_webhook_secret" webhookSecret ++
        flawOf "stripe_webhook_tolerance" tolerance

/-- The items of the list of allowed origins, trimmed; blank ones are dropped. -/
def origins (settings : Settings) : List Text :=
  ((Text.splitOn ',' settings.allowedOrigins).map Text.trim).filter fun origin => !origin.isEmpty

def provider (settings : Settings) (revoked : Option RevocationCheck) :
    Except Crash JwtProvider :=
  JwtProvider.make
    { secret := settings.jwtSecretKey
      algorithm := settings.jwtAlgorithm
      validityMinutes := settings.jwtValidityMinutes
      revoked }

def webhookService (settings : Settings) : WebhookService :=
  { secret := settings.stripeWebhookSecret, tolerance := some settings.stripeWebhookTolerance }

end Settings

end Tollgate
