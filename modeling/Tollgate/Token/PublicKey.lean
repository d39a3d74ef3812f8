import Tollgate.Codec.Base64
import Tollgate.Json.Basic
import Tollgate.Fault

namespace Tollgate.Token.PublicKey

def natural (bytes : Bytes) : Nat := bytes.foldl (fun n b => n * 256 + b.toNat) 0

def isBool : Json → Bool
  | .bool _ => true
  | _ => false

def number : Json → Except Crash Nat
  | .text s =>
    if !s.isAscii then .error .unencodable
    else match Base64.decodeFrom [] 0 (s.lowBytes ++ [Base64.padMark, Base64.padMark]) with
      | none => .error .undecodableKey
      | some [] => .error .wrongValue
      | some bytes => .ok (natural bytes)
  | .list items => .error (if items.all isBool then .wrongValue else .wrongType)
  | .object members => .error (if members.isEmpty then .wrongValue else .wrongType)
  | .bool _ => .error .wrongValue
  | .null | .integer _ | .number _ => .error .wrongType

/-- The number under a name; one that is not there is as bad as null. -/
def numberAt (members : Members) (name : String) : Except Crash Nat :=
  number ((Members.at? members name).getD .null)

def membersOf (kind : String) : Json → Except Crash Members
  | .object members =>
    if Members.at? members "kty" = some (Json.lit kind) then .ok members else .error .unusableKey
  | .text s => .error (if s.hasSurrogate then .unencodable else .unusableKey)
  | _ => .error .unusableKey

namespace Rsa

def isSound (modulus exponent : Nat) : Bool :=
  3 ≤ modulus && 3 ≤ exponent && exponent < modulus && exponent % 2 = 1

def privateParts : List String := ["p", "q", "dp", "dq", "qi"]

/-- Reads the private part of a key, which is not a public key then. -/
def refusePrivate (members : Members) : Except Crash Unit := do
  let _ ← numberAt members "d"
  let given := privateParts.filter (Members.has members)
  if !given.isEmpty && given ≠ privateParts then throw .unusableKey
  for part in given do
    let _ ← numberAt members part
  throw .wrongValue

def check (entry : Json) : Except Crash Unit := do
  let members ← membersOf "RSA" entry
  let some exponent := Members.at? members "e" | throw .wrongValue
  let exponent ← number exponent
  let modulus ← numberAt members "n"
  if Members.has members "d" then refusePrivate members
  if !isSound modulus exponent then throw .wrongValue

end Rsa

/-- The curve of the points whose y squared is the cube of x less three times x, plus a constant,
modulo a prime. -/
structure Curve where
  prime : Nat
  constant : Nat

namespace Curve

def p256 : Curve where
  prime := Nat.pow 2 256 - Nat.pow 2 224 + Nat.pow 2 192 + Nat.pow 2 96 - 1
  constant := 0x5ac635d8aa3a93e7b3ebbd55769886bc651d06b0cc53b0f63bce3c3e27d2604b

def p384 : Curve where
  prime := Nat.pow 2 384 - Nat.pow 2 128 - Nat.pow 2 96 + Nat.pow 2 32 - 1
  constant :=
    0xb3312fa7e23ee7e4988e056be3f82d19181d9c6efe814112 * Nat.pow 2 192 +
      0x0314088f5013875ac656398d8a2ed19d2a85c8edd3ec2aef

def p521 : Curve where
  prime := Nat.pow 2 521 - 1
  constant :=
    0x51953eb9618e1c9a1f929a21a0b68540eea2da725b99b315f3b8b489918ef1 * Nat.pow 2 272 +
      0x09e156193951ec7e937b1652c0bd3bb1bf073573df883d2c34f1ef451fd46b503f00

def names : List (String × Curve) := [("P-256", p256), ("P-384", p384), ("P-521", p521)]

def named : Json → Except Crash Curve
  | .text name =>
    match names.find? fun (known, _) => Text.lit known = name with
    | some (_, curve) => .ok curve
    | none => .error .unknownName
  | .list _ | .object _ => .error .wrongType
  | _ => .error .unknownName

def hasPoint (curve : Curve) (x y : Nat) : Bool :=
  x < curve.prime && y < curve.prime &&
    (y * y + 3 * x) % curve.prime = (x * x * x + curve.constant) % curve.prime

def requiredParts : List String := ["x", "y", "crv"]

def check (entry : Json) : Except Crash Unit := do
  let members ← membersOf "EC" entry
  if !requiredParts.all (Members.has members) then throw .unusableKey
  let x ← numberAt members "x"
  let y ← numberAt members "y"
  let curve ← named ((Members.at? members "crv").getD .null)
  if Members.has members "d" then
    let _ ← numberAt members "d"
    throw .wrongValue
  if !curve.hasPoint x y then throw .wrongValue

end Curve

end Tollgate.Token.PublicKey
