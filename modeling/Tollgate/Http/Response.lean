import Tollgate.Http.Header
import Tollgate.Json.Writer
import Tollgate.Text.Utf8
import Tollgate.Fault

namespace Tollgate

structure Response where
  status : Nat
  headers : Headers
  body : Bytes
deriving DecidableEq, Repr

namespace Response

def tellsLength (status : Nat) : Bool := 200 ≤ status && status ≠ 204 && status ≠ 304

def lengthHeaders (status : Nat) (body : Bytes) : Headers :=
  if tellsLength status then [(Text.lit "content-length", Integer.natural body.length)] else []

def ofBody (status : Nat) (kind : String) (body : Bytes) : Response :=
  { status
    headers := lengthHeaders status body ++ [(Text.lit "content-type", Text.lit kind)]
    body }

def ofJsonBytes (status : Nat) (body : Bytes) : Response := ofBody status "application/json" body

def ofText (status : Nat) (content : String) : Response :=
  ofBody status "text/plain; charset=utf-8" content.toUTF8.toList

mutual

def hasDigits : Json → Bool
  | .number (.finite ..) => true
  | .number _ => false
  | .list items => haveDigits items
  | .object members => membersHaveDigits members
  | _ => true

def haveDigits : List Json → Bool
  | [] => true
  | item :: items => hasDigits item && haveDigits items

def membersHaveDigits : List (Text × Json) → Bool
  | [] => true
  | (_, value) :: members => hasDigits value && membersHaveDigits members

end

def ofJson (status : Nat) (value : Json) : Except Crash Response :=
  if !hasDigits value || !value.isWritable then .error .wrongValue
  else match Utf8.encode (Json.compactUnicode value) with
    | none => .error .unencodable
    | some body => .ok (ofJsonBytes status body)

/-- An answer that says why, with a body where its status has one. -/
def ofDetail (status : Nat) (detail : Json) : Except Crash Response :=
  if status < 200 || status = 204 || status = 205 || status = 304 then
    .ok { status, headers := lengthHeaders status [], body := [] }
  else ofJson status (.object [(Text.lit "detail", detail)])

def withHeaders (response : Response) (headers : Headers) : Response :=
  { response with headers := response.headers ++ headers }

end Response

end Tollgate
