import Tollgate.Http.Url
import Tollgate.Http.Request

namespace Tollgate

structure Route where
  method : String
  path : String
  handler : Handler

namespace Router

/-- A line feed at the end of a path does not count. -/
def hasPath (route : Route) (path : Text) : Bool :=
  path = Text.lit route.path || path = Text.lit route.path ++ Text.lit "\n"

def detail (status : Nat) (message : String) : Response :=
  Response.ofJsonBytes status
    (Json.compactUnicode (.object [(Text.lit "detail", .lit message)])).lowBytes

def notFound : Response := detail 404 "Not Found"

def methodNotAllowed (allowed : String) : Response :=
  (detail 405 "Method Not Allowed").withHeaders [(Text.lit "allow", Text.lit allowed)]

def isSlash (c : CodePoint) : Bool := c = '/'

/-- The path without its slashes at the end, or with one if it has none. -/
def otherSpelling (path : Text) : Text :=
  if path.endsWith (Text.lit "/") then path.trimEndBy isSlash else path ++ Text.lit "/"

def redirect (request : Request) : Traced Response := do
  let url ← Traced.ofCrash { request with path := otherSpelling request.path }.url
  let location ← Traced.ofCrash (Url.quote url)
  return {
    status := 307
    headers := Response.lengthHeaders 307 [] ++ [(Text.lit "location", location)]
    body := [] }

def isRedirected (routes : List Route) (path : Text) : Bool :=
  path ≠ Text.lit "/" && routes.any fun route => hasPath route (otherSpelling path)

def handle (routes : List Route) : Handler := fun request =>
  let candidates := routes.filter (hasPath · request.path)
  match candidates.find? fun route => Text.lit route.method = request.method, candidates with
  | some route, _ => route.handler request
  | none, route :: _ => pure (methodNotAllowed route.method)
  | none, [] => if isRedirected routes request.path then redirect request else pure notFound

end Router

end Tollgate
