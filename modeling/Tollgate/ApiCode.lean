import Tollgate.Json.Writer

namespace Tollgate

/-- An error that a client can be told of: its status, by number and by name, and a message. -/
structure ErrorCode where
  status : Nat
  statusName : Text
  message : Text
deriving DecidableEq

inductive ApiCode where
  | invalidExpiredToken
  | authenticationRequired
  | deserializationError
  | signatureVerificationError
  | objectMissingError
  | billingUnavailable
  | payloadTooLarge
  | validationErrors
deriving DecidableEq, Repr

namespace ApiCode

def status : ApiCode → Nat
  | invalidExpiredToken | authenticationRequired => 401
  | deserializationError | signatureVerificationError | objectMissingError | validationErrors => 400
  | billingUnavailable => 503
  | payloadTooLarge => 413

def statusName : ApiCode → String
  | invalidExpiredToken | authenticationRequired => "UNAUTHORIZED"
  | deserializationError | signatureVerificationError | objectMissingError | validationErrors =>
    "BAD_REQUEST"
  | billingUnavailable => "SERVICE_UNAVAILABLE"
  | payloadTooLarge => "REQUEST_ENTITY_TOO_LARGE"

def message : ApiCode → String
  | invalidExpiredToken => "Expired or invalid JWT token."
  | authenticationRequired => "Full authentication is required to access this resource."
  | deserializationError => "Unable to deserialize stripe event."
  | signatureVerificationError => "Stripe signature verification failed."
  | objectMissingError => "Stripe event data object is missing."
  | billingUnavailable => "Billing is not configured."
  | payloadTooLarge => "Payload too large."
  | validationErrors => "Validation errors"

def errorCode (code : ApiCode) : ErrorCode :=
  ⟨code.status, Text.lit code.statusName, Text.lit code.message⟩

instance : Coe ApiCode ErrorCode := ⟨errorCode⟩

end ApiCode

end Tollgate
