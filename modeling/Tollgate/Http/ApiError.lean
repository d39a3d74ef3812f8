import Tollgate.Http.Response
import Tollgate.Json.Display
import Tollgate.Token.Key

namespace Tollgate

structure SubError where
  object : Text
  field : Option Text
  rejectedValue : Json
  message : Text
deriving DecidableEq

namespace SubError

def requiredText (members : Members) (name : String) : Except (List (String × FieldFlaw)) Text :=
  match members.at? name with
  | some (.text value) => .ok value
  | some _ => .error [(name, .notText)]
  | none => .error [(name, .missing)]

def optionalText (members : Members) (name : String) :
    Except (List (String × FieldFlaw)) (Option Text) :=
  match members.at? name with
  | none | some .null => .ok none
  | some (.text value) => .ok (some value)
  | some _ => .error [(name, .notText)]

def flawsOf {α : Type} : Except (List (String × FieldFlaw)) α → List (String × FieldFlaw)
  | .ok _ => []
  | .error flaws => flaws

/-- A sub error from its fields. The rejected value goes by two names; others are ignored. -/
def ofMembers (members : Members) : Except Crash SubError :=
  let field := optionalText members "field"
  let message := requiredText members "message"
  let object := requiredText members "object"
  match field, message, object with
  | .ok field, .ok message, .ok object =>
    let rejected := (members.at? "rejectedValue" <|> members.at? "rejected_value").getD .null
    .ok ⟨object, field, rejected, message⟩
  | _, _, _ => .error (.invalidFields (flawsOf field ++ flawsOf message ++ flawsOf object))

mutual

def expressible : Json → Json
  | .number (.infinite _) | .number .nan => .null
  | .list items => .list (expressibleItems items)
  | .object members => .object (expressibleMembers members)
  | value => value

def expressibleItems : List Json → List Json
  | [] => []
  | item :: items => expressible item :: expressibleItems items

def expressibleMembers : List (Text × Json) → List (Text × Json)
  | [] => []
  | (key, value) :: members => (key, expressible value) :: expressibleMembers members

end

mutual

def depth : Json → Nat
  | .list items => depthOfItems items + 1
  | .object members => depthOfMembers members + 1
  | _ => 1

def depthOfItems : List Json → Nat
  | [] => 0
  | item :: items => max (depth item) (depthOfItems items)

def depthOfMembers : List (Text × Json) → Nat
  | [] => 0
  | (_, value) :: members => max (depth value) (depthOfMembers members)

end

/-- The deepest nesting of a rejected value that clients are told of. -/
def depthLimit : Nat := 255

def unlessNull (name : String) (value : Json) : Members :=
  match value with
  | .null => []
  | value => [(Text.lit name, expressible value)]

def json (error : SubError) : Json :=
  .object <|
    [(Text.lit "object", .text error.object)] ++
      unlessNull "field" ((error.field.map Json.text).getD .null) ++
      unlessNull "rejectedValue" error.rejectedValue ++
      [(Text.lit "message", .text error.message)]

end SubError

structure ApiError where
  code : ErrorCode
  subErrors : Option (List SubError)
deriving DecidableEq

namespace ApiError

def json (error : ApiError) : Json :=
  .object <|
    [(Text.lit "status", .text error.code.statusName),
     (Text.lit "message", .text error.code.message)] ++
      ((error.subErrors.map fun errors =>
        [(Text.lit "subErrors", Json.list (errors.map SubError.json))]).getD [])

def response (error : ApiError) (status : Nat) : Except Crash Response :=
  if (error.subErrors.getD []).any fun sub => SubError.depthLimit < SubError.depth sub.rejectedValue
  then .error .wrongValue
  else Response.ofJson status error.json

end ApiError

def ApiCode.response (code : ApiCode) : Response :=
  Response.ofJsonBytes code.status (Json.compactUnicode (ApiError.json ⟨code, none⟩)).lowBytes

namespace Validation

/-- A sub error from a finding: where, what was given, and what is wrong. The first part of the
place names the object, the others its field. -/
def subErrorOf (finding : Members) : Except Crash SubError := do
  let some parts := Token.entries? ((finding.at? "loc").getD (.list [])) | throw .wrongType
  if !parts.all Json.isWritable then throw .wrongValue
  let place := parts.map Json.display
  let field := Text.join (Text.lit ".") (place.drop 1)
  match (finding.at? "msg").getD (.text []) with
  | .text message =>
    return ⟨place.headD (Text.lit "request"), if field.isEmpty then none else some field,
      (finding.at? "input").getD .null, message⟩
  | _ => throw (.invalidFields [("message", .notText)])

def response (findings : List Members) : Except Crash Response := do
  let errors ← findings.mapM subErrorOf
  ApiError.response ⟨ApiCode.validationErrors, some errors⟩ ApiCode.validationErrors.status

end Validation

end Tollgate
