import Tollgate.Http.ApiError
import Tollgate.Http.Request

namespace Tollgate.BodyLimit

def isDigit (c : CodePoint) : Bool := c.decimal?.isSome || c.isSuperscript

/-- The length that a header declares. A row of digits that is no number crashes: superscripts have
no decimal value, and there may be too many digits. -/
def declared (headers : Headers) : Except Crash (Option Int) :=
  match headers.get? "content-length" with
  | none => .ok none
  | some value =>
    if !value.isEmpty && value.all isDigit then
      match Integer.parse? value with
      | some length => .ok (some length)
      | none => .error .wrongValue
    else .ok none

def layer (maxBytes : Int) : Layer := fun next request => do
  match ← Traced.ofCrash (declared request.headers) with
  | some length =>
    if length > maxBytes then return ApiCode.payloadTooLarge.response else next request
  | none => next request

end Tollgate.BodyLimit
