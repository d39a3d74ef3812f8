import Tollgate.Http.Request

namespace Tollgate.Cors

def allowedMethods : List String := ["GET", "POST", "PUT", "DELETE", "OPTIONS"]

/-- The origins that may read answers; a star stands for all of them. -/
def isAllowed (origins : List Text) (origin : Text) : Bool :=
  origins.elem (Text.lit "*") || origins.elem origin

def header (name value : String) : Text × Text := (Text.lit name, Text.lit value)

def allowOrigin (origins : List Text) (origin : Text) : Headers :=
  if isAllowed origins origin then [(Text.lit "access-control-allow-origin", origin)] else []

def allowCredentials : Text × Text := header "access-control-allow-credentials" "true"

def failures (origins : List Text) (headers : Headers) (origin method : Text) : List String :=
  (if isAllowed origins origin then [] else ["origin"]) ++
    (if allowedMethods.any (Text.lit · = method) then [] else ["method"]) ++
    (if headers.has "access-control-request-private-network" then ["private-network"] else [])

def preflightHeaders (origins : List Text) (headers : Headers) (origin : Text) : Headers :=
  [header "vary" ("Origin, Access-Control-Request-Method, Access-Control-Request-Headers, " ++
      "Access-Control-Request-Private-Network"),
    header "access-control-allow-methods" (", ".intercalate allowedMethods),
    header "access-control-max-age" "600", allowCredentials] ++
    allowOrigin origins origin ++
    ((headers.get? "access-control-request-headers").map fun asked =>
      (Text.lit "access-control-allow-headers", asked)).toList

def preflight (origins : List Text) (headers : Headers) (origin method : Text) : Response :=
  let failed := failures origins headers origin method
  let answer :=
    if failed.isEmpty then Response.ofText 200 "OK"
    else Response.ofText 400 ("Disallowed CORS " ++ ", ".intercalate failed)
  answer.withHeaders (preflightHeaders origins headers origin)

def simpleHeaders (origins : List Text) (headers : Headers) : Headers :=
  header "vary" "Origin" ::
    match headers.get? "origin" with
    | some origin => allowCredentials :: allowOrigin origins origin
    | none => []

def preflight? (request : Request) : Option (Text × Text) :=
  if request.method = Text.lit "OPTIONS" then do
    return (← request.header? "origin", ← request.header? "access-control-request-method")
  else none

def layer (origins : List Text) : Layer := fun next request =>
  match preflight? request with
  | some (origin, method) => pure (preflight origins request.headers origin method)
  | none => do return (← next request).withHeaders (simpleHeaders origins request.headers)

end Tollgate.Cors
