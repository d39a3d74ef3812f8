import Tollgate.Token.Algorithm
import Tollgate.Token.PublicKey
import Tollgate.Json.Reader
import Tollgate.Text.Blank
import Tollgate.Text.Utf8
import Tollgate.Fault

namespace Tollgate.Token

def armourNames : List String :=
  ["CERTIFICATE", "TRUSTED CERTIFICATE", "PRIVATE KEY", "PUBLIC KEY", "ENCRYPTED PRIVATE KEY",
   "OPENSSH PRIVATE KEY", "DSA PRIVATE KEY", "RSA PRIVATE KEY", "RSA PUBLIC KEY", "EC PRIVATE KEY",
   "DH PARAMETERS", "NEW CERTIFICATE REQUEST", "CERTIFICATE REQUEST", "SSH2 PUBLIC KEY",
   "SSH2 ENCRYPTED PRIVATE KEY", "X509 CRL"]

def armourEdges : List String := ["-", " "]

/-- Every spelling of an opening line: four dashes, a dash or a space, and the same at its end. -/
def armourLines : List Text :=
  armourEdges.flatMap fun left => armourNames.flatMap fun name => armourEdges.map fun right =>
    Text.lit "----" ++ Text.lit left ++ Text.lit "BEGIN " ++ Text.lit name ++ Text.lit right ++
      Text.lit "----"

def sshKinds : List String :=
  ["ssh-ed25519", "ssh-rsa", "ssh-dss", "ecdsa-sha2-nistp256", "ecdsa-sha2-nistp384",
   "ecdsa-sha2-nistp521"]

def sshCertificateMark : Text := Text.lit "-cert-v01@openssh.com"

def isGap (c : CodePoint) : Bool := c = ' ' || c = '\t'

/-- A first word that ends in the mark of a certificate, blanks, and the start of a second word. -/
def isSshCertificate (s : Text) : Bool :=
  let (word, rest) := s.span fun c => !c.isAsciiSpace
  let blanks := rest.takeWhile isGap
  let second := rest.drop blanks.length
  Text.endsWith word sshCertificateMark && !blanks.isEmpty &&
    second.head?.any fun c => !c.isAsciiSpace

def looksAsymmetric (s : Text) : Bool :=
  armourLines.any s.holds || sshKinds.any (fun kind => s.holds (Text.lit kind)) ||
    isSshCertificate s

def sharedKey (s : Text) : Except Crash Bytes :=
  match Utf8.encode s with
  | none => .error .unencodable
  | some bytes => if looksAsymmetric s then .error .unusableKey else .ok bytes

def signingKey? (algorithm secret : Text) : Option (Digest × Bytes) := do
  let digest ← (← Algorithm.named? algorithm).digest?
  let key ← (sharedKey secret).toOption
  return (digest, key)

def secretOf : Json → Except Crash Bytes
  | .text s => sharedKey s
  | .object members =>
    if Members.at? members "kty" != some (Json.lit "oct") then .error .unusableKey
    else match Members.at? members "k" with
      | some (.text s) =>
        match Utf8.encode s with
        | none => .error .unencodable
        | some bytes =>
          match Base64.decode bytes with
          | some key => .ok key
          | none => .error .undecodableKey
      | _ => .error .noMembers
  | _ => .error .unusableKey

def size? : Json → Option Nat
  | .text s => some s.length
  | .list items => some items.length
  | .object members => some members.length
  | _ => none

def checkSize (keySize : Nat) (entry : Json) : Except Crash Unit :=
  match size? entry with
  | none => .error .wrongType
  | some size => if size = keySize then .ok () else .error .unusableKey

def checkText : Json → Except Crash Unit
  | .text s => if s.hasSurrogate then .error .unencodable else .ok ()
  | _ => .error .wrongType

inductive Key where
  | shared (digest : Digest) (secret : Bytes)
  | inert

namespace Key

def ofEntry (entry : Json) : Algorithm → Except Crash Key
  | .keyed digest => (shared digest) <$> secretOf entry
  | .rsa => (fun _ => inert) <$> PublicKey.Rsa.check entry
  | .ellipticCurve => (fun _ => inert) <$> PublicKey.Curve.check entry
  | .cipher keySize => (fun _ => inert) <$> checkSize keySize entry
  | .direct => (fun _ => inert) <$> checkText entry

def accepts (key : Key) (signed signature : Bytes) : Bool :=
  match key with
  | shared digest secret => digest.hmac secret signed = signature
  | inert => false

end Key

def texts (parts : List Text) : List Json := parts.map Json.text

/-- What a value yields when it is gone through: items, keys or characters. -/
def entries? : Json → Option (List Json)
  | .list items => some items
  | .object members => some (texts (members.map (·.1)))
  | .text s => some (texts (s.map ([·])))
  | _ => none

/-- The entries of a secret. In an object they stand under a key of that name, unless the object is
itself a key; any other object holds one entry a member. -/
def keySet (secret : Text) : Except Crash (List Json) :=
  match Json.readWith Json.Numeral.spelled secret with
  | .error _ => .ok [.text secret]
  | .ok (.list items) => .ok items
  | .ok (.object members) =>
    match Members.at? members "keys" with
    | some keys => (entries? keys).elim (.error .wrongType) .ok
    | none =>
      if Members.has members "kty" || members.isEmpty then .ok [.object members]
      else .ok (members.map (·.2))
  | .ok value => .ok [value]

/-- Whether one of the keys accepts the signature. A key that cannot be used is an error only when
no key before it accepts. -/
def isAccepted (algorithm : Algorithm) (signed signature : Bytes) : List Json → Except Crash Bool
  | [] => .ok false
  | entry :: entries => do
    let key ← Key.ofEntry entry algorithm
    if key.accepts signed signature then return true
    else isAccepted algorithm signed signature entries

def isSignedBy (secret algorithm : Text) (signed signature : Bytes) : Except Crash Bool := do
  let keys ← keySet secret
  match Algorithm.named? algorithm with
  | some algorithm => isAccepted algorithm signed signature keys
  | none => if keys.isEmpty then return false else throw .unusableKey

end Tollgate.Token
