import Tollgate.Codec.Base64
import Tollgate.Json.Reader
import Tollgate.Json.Writer
import Tollgate.Text.Utf8
import Tollgate.Fault

namespace Tollgate.Token

/-- Why a token is not accepted: a flaw of the token, or a crash on the way. -/
inductive Failure where
  | flaw (flaw : TokenFlaw)
  | crash (crash : Crash)
deriving DecidableEq

def dot : UInt8 := 0x2E

structure Compact where
  signed : Bytes
  header : Members
  payload : Bytes
  signature : Bytes

def readObject (unreadable notObject : TokenFlaw) (bytes : Bytes) : Except TokenFlaw Members :=
  match (Utf8.decode bytes).map Json.read with
  | some (.ok (.object members)) => .ok members
  | some (.ok _) => .error notObject
  | _ => .error unreadable

/-- The last dot ends the payload and the first one the header, so a payload may hold dots. -/
def segments? (token : Bytes) : Option (Bytes × Bytes × Bytes × Bytes) := do
  let (signed, signature) ← cutLast? dot token
  let (header, payload) ← cutFirst? dot signed
  return (signed, header, payload, signature)

namespace Compact

def parse (token : Bytes) : Except TokenFlaw Compact := do
  let some (signed, headerSegment, payloadSegment, signatureSegment) := segments? token
    | throw .tooFewSegments
  let some headerBytes := Base64.decode headerSegment | throw .tooFewSegments
  let header ← readObject .headerUnreadable .headerNotObject headerBytes
  let some payload := Base64.decode payloadSegment | throw .payloadPadding
  let some signature := Base64.decode signatureSegment | throw .signaturePadding
  return { signed, header, payload, signature }

end Compact

def segment (value : Json) : Bytes :=
  Base64.encode (Json.compact value).lowBytes

end Tollgate.Token
