import Tollgate.Http.Response
import Tollgate.Account.Principal

namespace Tollgate

/-- A request has a number in its run. Its path is decoded, and its body comes in chunks. The
security context is there once a gate has made it. -/
structure Request where
  number : Nat
  method : Text
  path : Text
  query : Bytes
  headers : Headers
  chunks : List Bytes
  context : Option SecurityContext := none

namespace Request

def body (request : Request) : Bytes := request.chunks.flatten

def header? (request : Request) (name : String) : Option Text := request.headers.get? name

def securityContext (request : Request) : SecurityContext :=
  request.context.getD (SecurityContext.empty request.number)

end Request

abbrev Handler := Request → Traced Response

/-- What stands around a handler: it may answer itself, or pass the request on and the answer
back. -/
abbrev Layer := Handler → Handler

end Tollgate
