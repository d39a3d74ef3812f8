import Tollgate.Proofs.Http.Serving
import Tollgate.Proofs.Text.Trim

namespace Tollgate

open Traced

def Headers.allowedOrigins (headers : Headers) : List Text :=
  (headers.filter fun header => header.1.asciiLower = Text.lit "access-control-allow-origin").map
    (·.2)

namespace Headers

theorem allowedOrigins_append (headers others : Headers) :
    (headers ++ others).allowedOrigins = headers.allowedOrigins ++ others.allowedOrigins := by
  simp only [allowedOrigins, List.filter_append, List.map_append]

end Headers

namespace Response

def NamesNoOrigin (response : Response) : Prop := response.headers.allowedOrigins = []

theorem NamesNoOrigin.withHeaders {response : Response} (silent : response.NamesNoOrigin)
    (headers : Headers) :
    (response.withHeaders headers).headers.allowedOrigins = headers.allowedOrigins := by
  have both := Headers.allowedOrigins_append response.headers headers
  rwa [silent, List.nil_append] at both

end Response

def Handler.NamesNoOrigin (handler : Handler) : Prop :=
  ∀ request, (handler request).Returns Response.NamesNoOrigin

namespace Handler

end Handler

namespace Router

end Router

namespace Gate

end Gate

namespace Cors

variable {origins : List Text} {origin : Text}

end Cors

namespace Application

variable {app : Application} {provider : TokenProvider} {now : Clock} {request : Request}

end Application

end Tollgate
