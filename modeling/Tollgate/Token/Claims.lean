import Tollgate.Token.Compact
import Tollgate.Number.Integer
import Tollgate.Clock

namespace Tollgate.Token

def wholeNumber? : Json → Except Crash (Option Int)
  | .bool b => .ok (some (if b then 1 else 0))
  | .integer n => .ok (some n)
  | .number (.infinite _) => .error .outOfRange
  | .number x => .ok x.truncate?
  | .text s => .ok (Integer.parse? s)
  | .null | .list _ | .object _ => .error .wrongType

def checkDate (claims : Members) (name : String) (notInteger : TokenFlaw)
    (check : Int → Except Failure Unit) : Except Failure Unit :=
  match claims.at? name with
  | none => .ok ()
  | some value =>
    match wholeNumber? value with
    | .error crash => .error (.crash crash)
    | .ok none => .error (.flaw notInteger)
    | .ok (some n) => check n

def isTextList : Json → Bool
  | .text _ => true
  | .list items => items.all fun item => item.text?.isSome
  | _ => false

/-- No audience is ever expected, so a token that names one is refused. -/
def audienceFlaw? (claims : Members) : Option TokenFlaw :=
  (claims.at? "aud").map fun audience =>
    if isTextList audience then .audienceRefused else .audienceFormat

def textFlaw? (claims : Members) (name : String) (flaw : TokenFlaw) : Option TokenFlaw :=
  match claims.at? name with
  | none | some (.text _) => none
  | some _ => some flaw

def accessFlaw? (claims : Members) : Option TokenFlaw :=
  if claims.has "at_hash" then some .accessTokenHash else none

def refuseIf (flaw : Option TokenFlaw) : Except Failure Unit :=
  flaw.elim (.ok ()) fun flaw => .error (.flaw flaw)

def missingFlaw? (claims : Members) (name : String) (flaw : TokenFlaw) : Option TokenFlaw :=
  if claims.has name then none else some flaw

/-- Refuses if a test of the clock's second says so. The clock is read only here: claims that are
not in order before it are refused whatever it shows. -/
def refuseAt (now : Clock) (flaw : TokenFlaw) (test : Int → Bool) : Except Failure Unit := do
  let second ← now.second.mapError .crash
  if test second then throw (.flaw flaw)

def checkClaims (now : Clock) (claims : Members) : Except Failure Unit := do
  refuseIf (missingFlaw? claims "exp" .expirationMissing)
  refuseIf (missingFlaw? claims "sub" .subjectMissing)
  checkDate claims "iat" .issuedAtNotInteger fun _ => .ok ()
  checkDate claims "nbf" .notBeforeNotInteger fun n => refuseAt now .notYetValid (n > ·)
  checkDate claims "exp" .expirationNotInteger fun n => refuseAt now .expired (n < ·)
  refuseIf (audienceFlaw? claims)
  refuseIf (textFlaw? claims "sub" .subjectNotText)
  refuseIf (textFlaw? claims "jti" .tokenIdNotText)
  refuseIf (accessFlaw? claims)

end Tollgate.Token
