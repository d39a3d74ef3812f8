import Tollgate.Http.Host
import Tollgate.Http.Request
import Tollgate.Codec.Hex

namespace Tollgate

namespace Url

def escapeMark (c : CodePoint) : Text :=
  if c = '?' then Text.lit "%3F"
  else if c = '#' then Text.lit "%23"
  else if c = '\\' then Text.lit "%5C"
  else [c]

def rooted : Text → Text
  | [] => []
  | c :: s => if c = '/' then c :: s else '/' :: c :: s

end Url

namespace Request

def escapedPath (request : Request) : Text := (Url.rooted request.path).flatMap Url.escapeMark

def serverName : Text := Text.lit "testserver"

/-- The server's own name stands in for a host that is not named or not valid. -/
def host (request : Request) : Text :=
  ((request.header? "host").filter Host.isValid).getD serverName

def queryText (request : Request) : Except Crash Text :=
  ((Utf8.decode request.query).map .ok).getD (.error .undecodable)

def url (request : Request) : Except Crash Text := do
  let query ← request.queryText
  let mark := if query.isEmpty then [] else Text.lit "?"
  return Text.lit "http://" ++ request.host ++ request.escapedPath ++ mark ++ query

/-- The path as log lines show it, without the code points that an address drops. A request has a
path to show if it has an address. -/
def urlPath (request : Request) : Except Crash Text := do
  let _ ← request.queryText
  return request.escapedPath.filter fun c => c ≠ '\t' && c ≠ '\r' && c ≠ '\n'

end Request

namespace Url

def isPlainByte (b : UInt8) : Bool :=
  (0x61 ≤ b && b ≤ 0x7A) || (0x41 ≤ b && b ≤ 0x5A) || (0x30 ≤ b && b ≤ 0x39) ||
    (Text.lit "_.-~:/%#?=@[]!$&\x27()*+,;").lowBytes.elem b

def upperHex (b : UInt8) : Text :=
  (Text.hex 2 b.toNat).map fun c => CodePoint.ofChar (Char.ofNat c.val).toUpper

def quote (address : Text) : Except Crash Text :=
  match Utf8.encode address with
  | none => .error .unencodable
  | some bytes =>
    .ok (bytes.flatMap fun b =>
      if isPlainByte b then [CodePoint.ofByte b] else '%' :: upperHex b)

end Url

end Tollgate
