import Tollgate.Codec.Hex
import Tollgate.Digest.Hmac
import Tollgate.Number.Integer
import Tollgate.Text.Utf8
import Tollgate.Clock
import Tollgate.Fault

namespace Tollgate.Webhook

def signedBytes (timestamp : Int) (payload : Bytes) : Bytes :=
  (Integer.decimal timestamp).lowBytes ++ 0x2E :: payload

def signatureOf (key : Bytes) (timestamp : Int) (payload : Bytes) : Text :=
  Hex.encode (Digest.sha256.hmac key (signedBytes timestamp payload))

def signatureHeader (key : Bytes) (timestamp : Int) (payload : Bytes) : Text :=
  Text.lit "t=" ++ Integer.decimal timestamp ++ Text.lit ",v1=" ++ signatureOf key timestamp payload

structure SignatureHeader where
  timestamp : Int
  signatures : List Text

/-- The name and the value of an item; what follows a second equals sign is not part of either. -/
def itemOf (item : Text) : Text × Option Text :=
  match Text.splitOn '=' item with
  | [] => ([], none)
  | name :: parts => (name, parts.head?)

/-- The values of the items of one name; none if one of them lacks a value. -/
def valuesOf (name : String) (items : List (Text × Option Text)) : Option (List Text) :=
  (items.filter fun (n, _) => n = Text.lit name).mapM (·.2)

def SignatureHeader.parse? (header : Text) : Option SignatureHeader := do
  let items := (Text.splitOn ',' header).map itemOf
  let timestamps ← valuesOf "t" items
  let timestamp ← Integer.parse? (← timestamps.head?)
  let signatures ← valuesOf "v1" items
  return { timestamp, signatures }

/-- Looks for the expected signature. One that is not ASCII cannot be compared, and ends the search
if it is reached. -/
def findSignature (expected : Text) : List Text → Except PayloadFlaw Bool
  | [] => .ok false
  | signature :: signatures =>
    if !signature.isAscii then .error .incomparableSignature
    else if signature = expected then .ok true
    else findSignature expected signatures

/-- Whether a timestamp is too old; a tolerance of zero sets no bound. -/
def isStale (now : Clock) (tolerance : Option Int) (timestamp : Int) : Option Bool :=
  match tolerance with
  | none | some 0 => some false
  | some seconds => now.time.isBefore? seconds timestamp

end Tollgate.Webhook
